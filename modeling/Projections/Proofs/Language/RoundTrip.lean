import Projections.Proofs.Language.Spelling

/-! The canonical text of an expression parses back to the expression. The text of every
part is a run of tokens that the grammar derives at the level on which the part binds, so
brackets stand exactly where a looser part meets a tighter place. -/

namespace Projections

open Grammar Lexer

/-! ### Printable expressions -/

/-- A name that the lexer reads as an identifier. -/
def IsIdentifier (name : String) : Prop := isWord name.toList = true ∧ keyword? name = none

def BinaryOp.isComparison : BinaryOp → Bool
  | .equal | .notEqual | .less | .greater | .lessEqual | .greaterEqual => true
  | _ => false

namespace Expr

def isComparison : Expr → Bool
  | .binary op _ _ => op.isComparison
  | _ => false

mutual

/-- Expressions that have a text in the language: names are identifiers, keys are no
keywords, numbers can be written, and no comparison is compared from the left. -/
def Printable : Expr → Prop
  | .float x => x.isFinite = true
  | .integer n => n ≠ Int64.minValue
  | .string _ | .boolean _ | .null => True
  | .name n => IsIdentifier n
  | .member base field => base.Printable ∧ IsIdentifier field
  | .index base position => base.Printable ∧ position.Printable
  | .call base method arguments => base.Printable ∧ IsIdentifier method ∧ AllPrintable arguments
  | .lambda parameters body => (∀ p ∈ parameters, IsIdentifier p) ∧ body.Printable
  | .not operand => operand.Printable
  | .binary op left right =>
    left.Printable ∧ right.Printable ∧ (op.isComparison = true → left.isComparison = false)
  | .object entries => EntriesPrintable entries
  | .array items => AllPrintable items

def AllPrintable : List Expr → Prop
  | [] => True
  | e :: es => e.Printable ∧ AllPrintable es

def EntriesPrintable : List (String × Expr) → Prop
  | [] => True
  | (key, e) :: es => keyword? key = none ∧ e.Printable ∧ EntriesPrintable es

end

end Expr

/-! ### Spelled tokens -/

theorem stops_nil : Stops [] := ⟨by simp, by simp⟩

theorem stops_cons {c : Char} (hn : continuesName c = false) (hd : c ≠ '.') (rest : List Char) :
    Stops (c :: rest) where
  name := by
    rintro _ ⟨⟩
    exact hn
  number := by
    rintro _ _ ⟨⟩
    exact absurd rfl hd

/-- A point before a name ends what stands before it, also a number. -/
theorem stops_dot {name : String} (h : IsIdentifier name) (rest : List Char) :
    Stops ('.' :: (name.toList ++ rest)) := by
  have hword := h.1
  cases hn : name.toList with
  | nil =>
    rw [hn] at hword
    cases hword
  | cons c more =>
    rw [hn, isWord, Bool.and_eq_true] at hword
    refine ⟨by rintro _ ⟨⟩; decide, ?_⟩
    rintro _ _ ⟨⟩
    by_contra hd
    rw [Bool.not_eq_false] at hd
    rw [(classes_of_isDigit hd).1] at hword
    exact absurd hword.1 Bool.false_ne_true

/-- The characters are the tokens, before anything that does not go on with them. -/
def Spells (cs : List Char) (ts : List Token) : Prop :=
  ∀ rest us, Stops rest → Lexes rest us → Lexes (cs ++ rest) (ts ++ us)

namespace Spells

variable {cs ds : List Char} {ts us : List Token}

theorem nil : Spells [] [] := fun _ _ _ h => h

theorem identifier {name : String} (h : IsIdentifier name) :
    Spells name.toList [.identifier name] := by
  intro rest us hs hl
  have hword : Lexer.word name.toList = .identifier name := by
    rw [Lexer.word, String.ofList_toList, h.2]
    rfl
  exact hword ▸ .word h.1 hs hl

theorem string (text : String) : Spells (quoted text).toList [.string text] := by
  intro rest us _ hl
  have hstring := Lexes.string text.toList hl
  rw [String.ofList_toList] at hstring
  rwa [quoted, String.toList_ofList]

theorem integer {k : ℕ} {n : Int64} (h : checkedInt64 k = some n) :
    Spells (Nat.toDigits 10 k) [.integer n] := by
  intro rest us hs hl
  exact .integer (isDigits_toDigits k) (by rwa [readDigits_toDigits]) hs hl

theorem float {front back : List Char} {x : Binary64} (h : Binary64.Pointed front back x) :
    Spells (front ++ '.' :: back) [.float x] :=
  fun _ _ hs hl => .float h hs hl

theorem sign {c : Char} {t : Token} (hb : Text.isBlank c = false)
    (hscan : ∀ position cs, scan position c cs = .ok (t, 1)) (h : Spells cs ts) :
    Spells (c :: cs) (t :: ts) :=
  fun rest vs hs hl => .sign hb hscan (h rest vs hs hl)

theorem space (h : Spells cs ts) : Spells (' ' :: cs) ts :=
  fun rest vs hs hl => .space (h rest vs hs hl)

theorem arrow (h : Spells cs ts) : Spells ('=' :: '>' :: cs) (.arrow :: ts) :=
  fun rest vs hs hl => .arrow (h rest vs hs hl)

theorem operator (op : BinaryOp) (h : Spells cs ts) :
    Spells (op.symbol.toList ++ ' ' :: cs) (op.sign :: ts) := by
  intro rest us hs hl
  rw [List.append_assoc]
  exact .operator op (h rest us hs hl)

/-- What begins with a sign or a blank may follow anything. -/
theorem append {c : Char} (hn : continuesName c = false) (hd : c ≠ '.') (h : Spells cs ts)
    (h' : Spells (c :: ds) us) : Spells (cs ++ c :: ds) (ts ++ us) := by
  intro rest vs hs hl
  rw [List.append_assoc, List.append_assoc]
  exact h _ _ (stops_cons hn hd _) (h' rest vs hs hl)

theorem comma (h : Spells cs ts) (h' : Spells ds us) :
    Spells (cs ++ ',' :: ' ' :: ds) (ts ++ .comma :: us) := by
  have hcomma : Spells (',' :: ' ' :: ds) (.comma :: us) := .sign rfl (fun _ _ => rfl) (.space h')
  exact h.append (by decide) (by decide) hcomma

theorem parens (h : Spells cs ts) :
    Spells ('(' :: (cs ++ [')'])) (.openParen :: (ts ++ [.closeParen])) := by
  have hclose : Spells [')'] [.closeParen] := .sign rfl (fun _ _ => rfl) .nil
  exact .sign rfl (fun _ _ => rfl) (.append (by decide) (by decide) h hclose)

theorem brackets (h : Spells cs ts) :
    Spells ('[' :: (cs ++ [']'])) (.openBracket :: (ts ++ [.closeBracket])) := by
  have hclose : Spells [']'] [.closeBracket] := .sign rfl (fun _ _ => rfl) .nil
  exact .sign rfl (fun _ _ => rfl) (.append (by decide) (by decide) h hclose)

theorem append_dot {name : String} (hname : IsIdentifier name) (h : Spells cs ts)
    (h' : Spells (name.toList ++ ds) us) :
    Spells (cs ++ '.' :: (name.toList ++ ds)) (ts ++ .dot :: us) := by
  intro rest vs hs hl
  have hdot : Lexes ('.' :: (name.toList ++ ds ++ rest)) (.dot :: (us ++ vs)) :=
    .sign rfl (fun _ _ => rfl) (h' rest vs hs hl)
  have hstop : Stops ('.' :: (name.toList ++ ds ++ rest)) := by
    rw [List.append_assoc]
    exact stops_dot hname _
  rw [List.append_assoc, List.append_assoc]
  exact h _ _ hstop hdot

/-! #### Forms -/

theorem word {cs : List Char} (h : isWord cs = true) : Spells cs [Lexer.word cs] :=
  fun _ _ hs hl => .word h hs hl

theorem member {field : String} (hf : IsIdentifier field) (h : Spells cs ts) :
    Spells (cs ++ '.' :: field.toList) (ts ++ [.dot, .identifier field]) := by
  have hfield : Spells (field.toList ++ []) [.identifier field] := by
    rw [List.append_nil]
    exact .identifier hf
  have hsuffix := append_dot hf h hfield
  rwa [List.append_nil] at hsuffix

theorem call {method : String} (hm : IsIdentifier method) (h : Spells cs ts) (h' : Spells ds us) :
    Spells (cs ++ '.' :: (method.toList ++ '(' :: (ds ++ [')'])))
      (ts ++ .dot :: .identifier method :: .openParen :: (us ++ [.closeParen])) :=
  .append_dot hm h (.append (by decide) (by decide) (.identifier hm) h'.parens)

theorem index (h : Spells cs ts) (h' : Spells ds us) :
    Spells (cs ++ '[' :: (ds ++ [']'])) (ts ++ .openBracket :: (us ++ [.closeBracket])) :=
  .append (by decide) (by decide) h h'.brackets

/-- The sign of a negation, before anything that does not make a comparison of it. -/
theorem bang {c : Char} (hc : c ≠ '=') (h : Spells (c :: cs) ts) :
    Spells ('!' :: c :: cs) (.bang :: ts) :=
  fun rest us hs hl => .bang (by simpa using hc) (h rest us hs hl)

theorem binary (op : BinaryOp) (h : Spells cs ts) (h' : Spells ds us) :
    Spells (cs ++ ' ' :: (op.symbol.toList ++ ' ' :: ds)) (ts ++ op.sign :: us) :=
  .append (by decide) (by decide) h (.space (.operator op h'))

/-- A function, after its parameters. -/
theorem function (h : Spells cs ts) (h' : Spells ds us) :
    Spells (cs ++ ' ' :: '=' :: '>' :: ' ' :: ds) (ts ++ .arrow :: us) :=
  .append (by decide) (by decide) h (.space (.arrow (.space h')))

theorem entry (h : Spells cs ts) (h' : Spells ds us) :
    Spells (cs ++ ':' :: ' ' :: ds) (ts ++ .colon :: us) := by
  have hcolon : Spells (':' :: ' ' :: ds) (.colon :: us) := .sign rfl (fun _ _ => rfl) (.space h')
  exact h.append (by decide) (by decide) hcolon

theorem braces (h : Spells cs ts) :
    Spells ('\x7b' :: ' ' :: (cs ++ [' ', '\x7d'])) (.openBrace :: (ts ++ [.closeBrace])) := by
  have hclose : Spells [' ', '\x7d'] [.closeBrace] := .space (.sign rfl (fun _ _ => rfl) .nil)
  exact .sign rfl (fun _ _ => rfl) (.space (.append (by decide) (by decide) h hclose))

theorem emptyBraces : Spells ['\x7b', '\x7d'] [.openBrace, .closeBrace] :=
  .sign rfl (fun _ _ => rfl) (.sign rfl (fun _ _ => rfl) .nil)

end Spells

/-! ### Printed expressions -/

/-- The characters are an expression of a level; they do not begin like the second half
of a comparison sign. -/
structure Prints (level : Level) (cs : List Char) (e : Expr) : Prop where
  opens : ∃ c more, cs = c :: more ∧ c ≠ '='
  spelled : ∃ ts, Spells cs ts ∧ Derives level ts e

/-- The characters are names between commas. -/
def PrintsNames (cs : List Char) (names : List String) : Prop := ∃ ts, Spells cs ts ∧ Names ts names

/-- The characters are expressions between commas. -/
def PrintsItems (cs : List Char) (es : List Expr) : Prop := ∃ ts, Spells cs ts ∧ Items ts es

/-- The characters are entries of an object between commas. -/
def PrintsEntries (cs : List Char) (es : List (String × Expr)) : Prop :=
  ∃ ts, Spells cs ts ∧ Entries ts es

theorem opens_of_isWord {cs : List Char} (h : isWord cs = true) (ds : List Char) :
    ∃ c more, cs ++ ds = c :: more ∧ c ≠ '=' := by
  cases cs with
  | nil => cases h
  | cons c more =>
    refine ⟨c, more ++ ds, rfl, ?_⟩
    rintro rfl
    rw [isWord, Bool.and_eq_true] at h
    exact absurd h.1 (by decide)

namespace Prints

variable {level tight : Level} {cs : List Char} {e : Expr}

theorem opens_append (h : Prints level cs e) (ds : List Char) :
    ∃ c more, cs ++ ds = c :: more ∧ c ≠ '=' := by
  obtain ⟨⟨c, more, rfl, hc⟩, -⟩ := h
  exact ⟨c, more ++ ds, rfl, hc⟩

theorem loosen (h : Prints tight cs e) (hr : level.rank ≤ tight.rank) : Prints level cs e := by
  obtain ⟨hopens, ts, hs, hd⟩ := h
  exact ⟨hopens, ts, hs, hd.loosen hr⟩

theorem group (h : Prints .expression cs e) : Prints .primary ('(' :: (cs ++ [')'])) e := by
  obtain ⟨-, ts, hs, hd⟩ := h
  exact ⟨⟨_, _, rfl, by decide⟩, _, hs.parens, .group hd⟩

/-- Brackets, at least where the expression binds looser than its place. -/
theorem bracketed {text : String} {needed : Bool}
    (h : ∀ place : Level, place.rank ≤ e.precedence → Prints place text.toList e)
    (hneeded : needed = false → level.rank ≤ e.precedence) (hr : level.rank ≤ 9) :
    Prints level (Projections.bracketed needed text).toList e := by
  cases needed with
  | false => exact h level (hneeded rfl)
  | true =>
    have hgroup := (h .expression (Nat.zero_le _)).group
    have htext : (Projections.bracketed true text).toList = '(' :: (text.toList ++ [')']) := by
      simp [Projections.bracketed]
    rw [htext]
    exact hgroup.loosen hr

theorem name {n : String} (h : IsIdentifier n) : Prints .primary n.toList (.name n) := by
  refine ⟨?_, _, .identifier h, .name n⟩
  have hopens := opens_of_isWord h.1 []
  rwa [List.append_nil] at hopens

/-! #### Suffixes -/

theorem member {field : String} (h : Prints .suffixed cs e) (hf : IsIdentifier field) :
    Prints .suffixed (cs ++ '.' :: field.toList) (.member e field) := by
  obtain ⟨ts, hs, hd⟩ := h.spelled
  exact ⟨h.opens_append _, _, hs.member hf, .member field hd⟩

theorem call {method : String} {ds : List Char} {arguments : List Expr}
    (h : Prints .suffixed cs e) (hm : IsIdentifier method) (ha : PrintsItems ds arguments) :
    Prints .suffixed (cs ++ '.' :: (method.toList ++ '(' :: (ds ++ [')'])))
      (.call e method arguments) := by
  obtain ⟨ts, hs, hd⟩ := h.spelled
  obtain ⟨us, hitems, hi⟩ := ha
  exact ⟨h.opens_append _, _, .call hm hs hitems, .call method hd hi⟩

theorem index {ds : List Char} {position : Expr} (h : Prints .suffixed cs e)
    (hp : Prints .expression ds position) :
    Prints .suffixed (cs ++ '[' :: (ds ++ [']'])) (.index e position) := by
  obtain ⟨ts, hs, hd⟩ := h.spelled
  obtain ⟨us, hs', hd'⟩ := hp.spelled
  exact ⟨h.opens_append _, _, hs.index hs', .index hd hd'⟩

/-! #### Operators -/

theorem not (h : Prints .unary cs e) : Prints .unary ('!' :: cs) (.not e) := by
  obtain ⟨⟨c, more, rfl, hc⟩, ts, hs, hd⟩ := h
  exact ⟨⟨_, _, rfl, by decide⟩, _, .bang hc hs, .not hd⟩

/-- Two operands around an operator, each at the level that the grammar wants there. -/
theorem binary {op : BinaryOp} {outer inner place : Level} {ds : List Char} {right : Expr}
    (h : Prints outer cs e) (hr : Prints inner ds right)
    (hd : ∀ {ls rs}, Derives outer ls e → Derives inner rs right →
      Derives place (ls ++ op.sign :: rs) (.binary op e right)) :
    Prints place (cs ++ ' ' :: (op.symbol.toList ++ ' ' :: ds)) (.binary op e right) := by
  obtain ⟨ts, hs, hl⟩ := h.spelled
  obtain ⟨us, hs', hl'⟩ := hr.spelled
  exact ⟨h.opens_append _, _, hs.binary op hs', hd hl hl'⟩

/-! #### Functions -/

theorem arrow {parameter : String} (hp : IsIdentifier parameter) (h : Prints .expression cs e) :
    Prints .expression (parameter.toList ++ ' ' :: '=' :: '>' :: ' ' :: cs)
      (.lambda [parameter] e) := by
  obtain ⟨ts, hs, hd⟩ := h.spelled
  exact ⟨opens_of_isWord hp.1 _, _, .function (.identifier hp) hs, .arrow parameter hd⟩

theorem header {ds : List Char} {parameters : List String} (hp : PrintsNames ds parameters)
    (h : Prints .expression cs e) :
    Prints .expression ('(' :: (ds ++ ')' :: ' ' :: '=' :: '>' :: ' ' :: cs))
      (.lambda parameters e) := by
  obtain ⟨ts, hs, hd⟩ := h.spelled
  obtain ⟨us, hnames, hn⟩ := hp
  have harrow : Spells (')' :: ' ' :: '=' :: '>' :: ' ' :: cs) (.closeParen :: .arrow :: ts) :=
    .sign rfl (fun _ _ => rfl) (.space (.arrow (.space hs)))
  exact ⟨⟨_, _, rfl, by decide⟩, _,
    .sign rfl (fun _ _ => rfl) (.append (by decide) (by decide) hnames harrow), .header hn hd⟩

/-! #### Collections -/

theorem array {items : List Expr} (h : PrintsItems cs items) :
    Prints .primary ('[' :: (cs ++ [']'])) (.array items) := by
  obtain ⟨ts, hs, hi⟩ := h
  exact ⟨⟨_, _, rfl, by decide⟩, _, hs.brackets, .array hi⟩

theorem object {entries : List (String × Expr)} (h : PrintsEntries cs entries) :
    Prints .primary ('\x7b' :: ' ' :: (cs ++ [' ', '\x7d'])) (.object entries) := by
  obtain ⟨ts, hs, he⟩ := h
  exact ⟨⟨_, _, rfl, by decide⟩, _, hs.braces, .object he⟩

theorem emptyObject : Prints .primary ['\x7b', '\x7d'] (.object []) :=
  ⟨⟨_, _, rfl, by decide⟩, _, .emptyBraces, .object .nil⟩

/-! #### Literals -/

theorem string (text : String) : Prints .primary (quoted text).toList (.string text) := by
  refine ⟨⟨'"', text.toList.flatMap Text.sourceEscape ++ ['"'], ?_, by decide⟩, [.string text],
    .string text, .string text⟩
  rw [quoted, String.toList_ofList]
  rfl

theorem keyword {word : String} {t : Token} (hw : isWord word.toList = true)
    (hk : keyword? word = some t) (hd : Derives .primary [t] e) :
    Prints .primary word.toList e := by
  have hopens := opens_of_isWord hw []
  rw [List.append_nil] at hopens
  have hword : Lexer.word word.toList = t := by
    rw [Lexer.word, String.ofList_toList, hk]
    rfl
  exact ⟨hopens, [t], hword ▸ .word hw, hd⟩

/-- Digits do not begin like the second half of a comparison sign. -/
theorem opens_digits {digits : List Char} (h : IsDigits digits) (ds : List Char) :
    ∃ c more, digits ++ ds = c :: more ∧ c ≠ '=' := by
  obtain ⟨hne, hall⟩ := h
  cases digits with
  | nil => exact absurd rfl hne
  | cons c more =>
    refine ⟨c, more ++ ds, rfl, ?_⟩
    rintro rfl
    exact absurd (hall '=' (List.mem_cons_self ..)) (by decide)

theorem checkedInt64_toNat {k : ℤ} (h : 0 ≤ k) (hlt : k < 0x8000000000000000) :
    checkedInt64 (k.toNat : ℤ) = some (Int64.ofInt k) := by
  have hfits : fitsInt64 k = true := by
    simp only [fitsInt64, Bool.and_eq_true, decide_eq_true_eq]
    omega
  rw [Int.toNat_of_nonneg h, checkedInt64, if_pos hfits]

/-- A negative integer is a minus and the integer of its size. -/
theorem text_of_integer {n : Int64} (h : n ≠ Int64.minValue) : ∃ k : ℕ,
    (checkedInt64 k = some n ∧ (toString n).toList = Nat.toDigits 10 k) ∨
      (n < 0 ∧ checkedInt64 k = some (-n) ∧ (toString n).toList = '-' :: Nat.toDigits 10 k) := by
  have htext : toString n = n.toInt.repr := rfl
  rw [htext, Int.repr_eq_if]
  split_ifs with hn
  · have hcheck := checkedInt64_toNat hn n.toInt_lt
    rw [Int64.ofInt_toInt] at hcheck
    exact ⟨_, .inl ⟨hcheck, Nat.toList_repr⟩⟩
  · have hleast : n.toInt ≠ -0x8000000000000000 := fun heq => h (Int64.toInt_inj.1 heq)
    have hge := n.le_toInt
    have hcheck := checkedInt64_toNat (k := -n.toInt) (by omega) (by omega)
    rw [Int64.ofInt_neg, Int64.ofInt_toInt] at hcheck
    refine ⟨_, .inr ⟨Int64.lt_iff_toInt_lt.2 (by simpa using hn), hcheck, ?_⟩⟩
    rw [String.toList_append, Nat.toList_repr]
    rfl

theorem integer {n : Int64} (h : n ≠ Int64.minValue) {level : Level}
    (hr : level.rank ≤ (Expr.integer n).precedence) :
    Prints level (toString n).toList (.integer n) := by
  obtain ⟨k, ⟨hcheck, htext⟩ | ⟨hn, hcheck, htext⟩⟩ := text_of_integer h
  · have hopens := opens_digits (isDigits_toDigits k) []
    rw [List.append_nil] at hopens
    have hprints : Prints .primary (Nat.toDigits 10 k) (.integer n) :=
      ⟨hopens, _, .integer hcheck, .integer n⟩
    have hrank : level.rank ≤ 9 := by cases level <;> decide
    rw [htext]
    exact hprints.loosen hrank
  · have hderives : Derives .unary [.minus, .integer (-n)] (.integer n) := by
      have hd := Derives.negativeInteger (-n)
      rwa [Int64.neg_neg] at hd
    have hprints : Prints .unary ('-' :: Nat.toDigits 10 k) (.integer n) :=
      ⟨⟨_, _, rfl, by decide⟩, _, .sign rfl (fun _ _ => rfl) (.integer hcheck), hderives⟩
    rw [Expr.precedence, if_pos hn] at hr
    rw [htext]
    exact hprints.loosen hr

theorem float {x : Binary64} (h : x.isFinite = true) {level : Level}
    (hr : level.rank ≤ (Expr.float x).precedence) :
    Prints level x.sourceText.toList (.float x) := by
  obtain ⟨front, back, htext, hp⟩ := Binary64.sourceText_pointed h
  obtain ⟨negative, magnitude⟩ := x
  rw [htext, Binary64.signed, String.toList_ofList]
  cases negative with
  | false =>
    exact (⟨opens_digits hp.frontDigits _, _, .float hp, .float _⟩ : Prints .primary _ _).loosen
      (Nat.le_succ_of_le hr)
  | true =>
    exact (⟨⟨_, _, rfl, by decide⟩, _, .sign rfl (fun _ _ => rfl) (.float hp),
      .negativeFloat _⟩ : Prints .unary _ _).loosen hr

end Prints

/-! ### Printed lists -/

theorem separated_cons_cons (first second : String) (rest : List String) :
    (separated (first :: second :: rest)).toList =
      first.toList ++ ',' :: ' ' :: (separated (second :: rest)).toList := by
  rw [separated, String.intercalate_cons_cons, String.toList_append, String.toList_append,
    List.append_assoc]
  rfl

theorem separated_singleton (text : String) : separated [text] = text :=
  String.intercalate_singleton

theorem printsNames_separated {names : List String} (h : ∀ n ∈ names, IsIdentifier n) :
    PrintsNames (separated names).toList names := by
  induction names with
  | nil => exact ⟨[], .nil, .nil⟩
  | cons first rest ih =>
    obtain ⟨hfirst, hrest⟩ := List.forall_mem_cons.1 h
    cases rest with
    | nil =>
      rw [separated_singleton]
      exact ⟨_, .identifier hfirst, .last first⟩
    | cons second rest =>
      obtain ⟨ts, hs, hn⟩ := ih hrest
      rw [separated_cons_cons]
      exact ⟨_, .comma (.identifier hfirst) hs, .cons first hn⟩

theorem PrintsItems.singleton {cs : List Char} {e : Expr} (h : Prints .expression cs e) :
    PrintsItems cs [e] := by
  obtain ⟨ts, hs, hd⟩ := h.spelled
  exact ⟨ts, hs, .last hd⟩

theorem PrintsItems.cons {cs ds : List Char} {e : Expr} {es : List Expr}
    (h : Prints .expression cs e) (hes : PrintsItems ds es) :
    PrintsItems (cs ++ ',' :: ' ' :: ds) (e :: es) := by
  obtain ⟨ts, hs, hd⟩ := h.spelled
  obtain ⟨us, hs', hi⟩ := hes
  exact ⟨_, hs.comma hs', .cons hd hi⟩

/-- A key is spelled as a word where it is one, and else quoted. -/
theorem spells_key {key : String} (h : keyword? key = none) :
    ∃ t, Spells (Expr.keyText key).toList [t] ∧ IsKey t key := by
  unfold Expr.keyText
  split_ifs with hw
  · exact ⟨_, .identifier ⟨hw, h⟩, .inr rfl⟩
  · exact ⟨_, .string key, .inl rfl⟩

/-- The text of an entry. -/
theorem spells_entry {key : String} {cs : List Char} {e : Expr} (hk : keyword? key = none)
    (h : Prints .expression cs e) :
    ∃ t ts, IsKey t key ∧ Derives .expression ts e ∧
      Spells ((Expr.keyText key).toList ++ ':' :: ' ' :: cs) (t :: .colon :: ts) := by
  obtain ⟨t, hs, ht⟩ := spells_key hk
  obtain ⟨ts, hs', hd⟩ := h.spelled
  exact ⟨t, ts, ht, hd, hs.entry hs'⟩

theorem PrintsEntries.singleton {key : String} {cs : List Char} {e : Expr}
    (hk : keyword? key = none) (h : Prints .expression cs e) :
    PrintsEntries ((Expr.keyText key).toList ++ ':' :: ' ' :: cs) [(key, e)] := by
  obtain ⟨t, ts, ht, hd, hs⟩ := spells_entry hk h
  exact ⟨_, hs, .last ht hd⟩

theorem PrintsEntries.cons {key : String} {cs ds : List Char} {e : Expr}
    {es : List (String × Expr)} (hes : PrintsEntries ds es) (hk : keyword? key = none)
    (h : Prints .expression cs e) :
    PrintsEntries ((Expr.keyText key).toList ++ ':' :: ' ' :: (cs ++ ',' :: ' ' :: ds))
      ((key, e) :: es) := by
  obtain ⟨t, ts, ht, hd, hs⟩ := spells_entry hk h
  obtain ⟨us, hs', he⟩ := hes
  have hentries := hs.comma hs'
  exact ⟨_, by simpa using hentries, .cons ht hd he⟩

/-! ### Texts of expressions -/

namespace BinaryOp

/-- The level of the grammar at which an operator joins its operands. -/
def level : BinaryOp → Level
  | .coalesce => .coalescing
  | .or => .disjunction
  | .and => .conjunction
  | .equal | .notEqual | .less | .greater | .lessEqual | .greaterEqual => .comparison
  | .add | .subtract => .sum
  | .multiply | .divide | .modulo => .product

theorem rank_level (op : BinaryOp) : op.level.rank = op.precedence := by
  cases op <;> rfl

theorem precedence_le (op : BinaryOp) : op.precedence ≤ 6 := by
  cases op <;> decide

/-- An operator other than a comparison is chained. -/
theorem mem_chained {op : BinaryOp} (h : op.isComparison = false) :
    (op.sign, op) ∈ op.level.chained := by
  cases op <;> first | decide | cases h

theorem mem_comparisons {op : BinaryOp} (h : op.isComparison = true) :
    op.level = .comparison ∧ (op.sign, op) ∈ comparisons := by
  cases op <;> first | exact ⟨rfl, by decide⟩ | cases h

end BinaryOp

namespace Expr

theorem isComparison_of_precedence_eq {e : Expr} (h : e.precedence = 4) :
    e.isComparison = true := by
  unfold precedence at h
  split at h
  · cases h
  · next op _ _ => cases op <;> first | rfl | cases h
  · cases h
  · split_ifs at h <;> cases h
  · split_ifs at h <;> cases h
  · cases h

theorem precedence_le (e : Expr) : e.precedence ≤ 8 := by
  unfold precedence
  split
  · decide
  · next op _ _ => exact op.precedence_le.trans (by decide)
  · decide
  · split_ifs <;> decide
  · split_ifs <;> decide
  · decide

/-- The operand of an operator or a suffix. -/
theorem prints_bracketed {e : Expr} {level : Level}
    (h : ∀ place : Level, place.rank ≤ e.precedence → Prints place e.text.toList e)
    (hr : level.rank ≤ 9) :
    Prints level (bracketed (e.precedence < level.rank) e.text).toList e :=
  .bracketed h (fun hneeded => by simpa using hneeded) hr

mutual

theorem prints_text : ∀ e : Expr, e.Printable → ∀ level : Level, level.rank ≤ e.precedence →
    Prints level e.text.toList e
  | .float x, h, _, hr => .float h hr
  | .integer n, h, _, hr => .integer h hr
  | .string s, _, _, hr => (Prints.string s).loosen (Nat.le_succ_of_le hr)
  | .boolean true, _, _, hr =>
    (Prints.keyword rfl rfl (.boolean true) : Prints .primary "true".toList _).loosen
      (Nat.le_succ_of_le hr)
  | .boolean false, _, _, hr =>
    (Prints.keyword rfl rfl (.boolean false) : Prints .primary "false".toList _).loosen
      (Nat.le_succ_of_le hr)
  | .null, _, _, hr =>
    (Prints.keyword rfl rfl .null : Prints .primary "null".toList _).loosen (Nat.le_succ_of_le hr)
  | .name n, h, _, hr => (Prints.name h).loosen (Nat.le_succ_of_le hr)
  | .member base field, h, level, hr => by
    have hbase : Prints .suffixed (bracketed (base.precedence < 8) base.text).toList base :=
      prints_bracketed (prints_text base h.1) (by decide)
    have hprints := hbase.member h.2
    rw [text, String.toList_append, String.toList_append, List.append_assoc]
    exact hprints.loosen hr
  | .index base position, h, level, hr => by
    have hbase : Prints .suffixed (bracketed (base.precedence < 8) base.text).toList base :=
      prints_bracketed (prints_text base h.1) (by decide)
    have hprints := hbase.index (prints_text position h.2 .expression (Nat.zero_le _))
    simp only [text, String.toList_append, List.append_assoc]
    exact hprints.loosen hr
  | .call base method arguments, h, level, hr => by
    have hbase : Prints .suffixed (bracketed (base.precedence < 8) base.text).toList base :=
      prints_bracketed (prints_text base h.1) (by decide)
    have hprints := hbase.call h.2.1 (prints_texts arguments h.2.2)
    simp only [text, String.toList_append, List.append_assoc]
    exact hprints.loosen hr
  | .lambda parameters body, h, level, hr => by
    have hbody := prints_text body h.2 .expression (Nat.zero_le _)
    have hheader := Prints.header (printsNames_separated h.1) hbody
    rw [text]
    unfold lambdaText
    split
    · next parameter =>
      have hparameter := h.1 parameter (List.mem_singleton.2 rfl)
      simp only [String.toList_append, List.append_assoc]
      exact (hbody.arrow hparameter).loosen hr
    · simp only [String.toList_append, List.append_assoc]
      exact hheader.loosen hr
  | .not operand, h, level, hr => by
    have hoperand :
        Prints .unary (bracketed (operand.precedence < 7) operand.text).toList operand :=
      prints_bracketed (prints_text operand h) (by decide)
    rw [text, String.toList_append]
    exact hoperand.not.loosen hr
  | .binary op left right, h, level, hr => by
    have hl := prints_text left h.1
    have hr' := prints_text right h.2.1
    have hle := op.precedence_le
    rw [precedence, ← op.rank_level] at hr
    simp only [text, String.toList_append, List.append_assoc]
    cases hop : op.isComparison with
    | false =>
      obtain ⟨next, hnext⟩ := op.level.exists_next_of_rank_lt (by rw [op.rank_level]; omega)
      have hrank := Level.rank_next hnext
      rw [op.rank_level] at hrank
      have hleft : Prints op.level (bracketed (left.precedence < op.precedence) left.text).toList
          left := by
        rw [← op.rank_level]
        exact prints_bracketed hl (by rw [op.rank_level]; omega)
      have hright : Prints next
          (bracketed (right.precedence < op.precedence + 1) right.text).toList right := by
        rw [← hrank]
        exact prints_bracketed hr' (by omega)
      exact (hleft.binary hright (.chain hnext (BinaryOp.mem_chained hop))).loosen hr
    | true =>
      obtain ⟨hlevel, hmem⟩ := BinaryOp.mem_comparisons hop
      have hprec : op.precedence = 4 := by rw [← op.rank_level, hlevel]; rfl
      have hleft : Prints .sum (bracketed (left.precedence < op.precedence) left.text).toList
          left := by
        refine .bracketed hl (fun hneeded => ?_) (by decide)
        have hge : ¬ left.precedence < op.precedence := of_decide_eq_false hneeded
        have hne : left.precedence ≠ 4 := fun heq => by
          have hcomparison := h.2.2 hop
          rw [isComparison_of_precedence_eq heq] at hcomparison
          cases hcomparison
        have hsum : Level.sum.rank = 5 := rfl
        omega
      have hright : Prints .sum
          (bracketed (right.precedence < op.precedence + 1) right.text).toList right := by
        rw [hprec]
        exact prints_bracketed hr' (by decide)
      rw [hlevel] at hr
      exact (hleft.binary hright (.comparison hmem)).loosen hr
  | .object [], _, _, hr => Prints.emptyObject.loosen (Nat.le_succ_of_le hr)
  | .object (entry :: entries), h, level, hr => by
    have hprints := Prints.object (prints_entryTexts (entry :: entries) h)
    rw [text, if_neg (by simp)]
    simp only [String.toList_append, List.append_assoc]
    exact hprints.loosen (Nat.le_succ_of_le hr)
  | .array items, h, level, hr => by
    have hprints := Prints.array (prints_texts items h)
    simp only [text, String.toList_append, List.append_assoc]
    exact hprints.loosen (Nat.le_succ_of_le hr)

theorem prints_texts : ∀ es : List Expr, AllPrintable es →
    PrintsItems (separated (texts es)).toList es
  | [], _ => ⟨[], .nil, .nil⟩
  | [e], h => by
    rw [texts, texts, separated_singleton]
    exact .singleton (prints_text e h.1 .expression (Nat.zero_le _))
  | e :: second :: es, h => by
    have hrest := prints_texts (second :: es) h.2
    rw [texts] at hrest
    rw [texts, texts, separated_cons_cons]
    exact .cons (prints_text e h.1 .expression (Nat.zero_le _)) hrest

theorem prints_entryTexts : ∀ es : List (String × Expr), EntriesPrintable es →
    PrintsEntries (separated (entryTexts es)).toList es
  | [], _ => ⟨[], .nil, .nil⟩
  | [(key, e)], h => by
    have hprints := PrintsEntries.singleton h.1 (prints_text e h.2.1 .expression (Nat.zero_le _))
    rw [entryTexts, entryTexts, separated_singleton]
    simp only [String.toList_append, List.append_assoc]
    exact hprints
  | (key, e) :: second :: es, h => by
    have hrest := prints_entryTexts (second :: es) h.2.2
    have hprints := hrest.cons h.1 (prints_text e h.2.1 .expression (Nat.zero_le _))
    rw [entryTexts] at hprints
    rw [entryTexts, entryTexts, separated_cons_cons]
    simp only [String.toList_append, List.append_assoc]
    exact hprints

end

end Expr

/-- The canonical text of a printable expression parses to the expression. -/
theorem parse_text (e : Expr) (h : e.Printable) : parse e.text = .ok e := by
  obtain ⟨ts, hs, hd⟩ := (e.prints_text h .expression (Nat.zero_le _)).spelled
  have hlexes := hs [] [] stops_nil .nil
  rw [List.append_nil, List.append_nil] at hlexes
  exact parse_of_derives (tokenizes_of_lexes hlexes) hd

/-- A lambda as operand, a negative literal and a subtraction on the right stay apart. -/
theorem parse_text_of_operands :
    let e := Expr.binary .subtract (.integer (-1)) (.binary .subtract
      (.member (.not (.float ⟨true, ⟨0x3FF8000000000000, by decide⟩⟩)) "size")
      (.lambda ["x", "y"] (.object [("a key", .index (.name "x") (.string "\""))])))
    e.Printable ∧ parse e.text = .ok e := by
  intro e
  have hx : IsIdentifier "x" := ⟨rfl, rfl⟩
  have hy : IsIdentifier "y" := ⟨rfl, rfl⟩
  have hsize : IsIdentifier "size" := ⟨rfl, rfl⟩
  have h : e.Printable := by
    have hone : (-1 : Int64) ≠ Int64.minValue := by decide
    refine ⟨hone, ⟨⟨rfl, hsize⟩, ⟨?_, rfl, ⟨hx, trivial⟩, trivial⟩, ?_⟩, ?_⟩
    · simp [hx, hy]
    · simp [BinaryOp.isComparison]
    · simp [BinaryOp.isComparison]
  exact ⟨h, parse_text e h⟩

end Projections
