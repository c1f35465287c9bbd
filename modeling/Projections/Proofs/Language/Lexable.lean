import Projections.Proofs.Language.RoundTrip

/-! Expressions that come from sources. The lexer gives names that are words and no
keywords, and numbers without a sign; a tree that the grammar derives from such tokens has
names and numbers that can be spelled. What its text may still get wrong is counted. -/

namespace Projections

open Grammar Lexer

/-! ### Tokens of sources -/

/-- A token as the lexer gives it. -/
def Token.Lexical : Token → Prop
  | .identifier name => IsIdentifier name
  | .integer n => 0 ≤ n
  | .float x => x.negative = false ∧ x.isNaN = false
  | _ => True

namespace Binary64

theorem ofRatio_unsigned (num den : ℕ) :
    (ofRatio false num den).negative = false ∧ (ofRatio false num den).isNaN = false := by
  unfold ofRatio
  split_ifs
  · exact ⟨rfl, rfl⟩
  · exact ⟨rfl, decide_eq_false (Nat.not_lt.2 (Nat.min_le_right _ _))⟩

/-- A decimal text without a sign is a number without one. -/
theorem ofPoint_unsigned (whole fraction : List Char) :
    (ofPoint whole fraction).negative = false ∧ (ofPoint whole fraction).isNaN = false := by
  unfold ofPoint ofDecimal
  dsimp only
  split_ifs
  · exact ⟨rfl, rfl⟩
  · exact ⟨rfl, rfl⟩
  · exact ofRatio_unsigned _ _

end Binary64

namespace Lexer

theorem lexical_word {cs : List Char} (h : isWord cs = true) : (word cs).Lexical := by
  rw [word]
  cases hk : keyword? (String.ofList cs) with
  | none => exact ⟨by rwa [String.toList_ofList], hk⟩
  | some t =>
    unfold keyword? at hk
    split at hk <;> cases hk <;> trivial

theorem lexical_scanNumber {position width : ℕ} {cs : List Char} {t : Token}
    (h : scanNumber position cs = .ok (t, width)) : t.Lexical := by
  have hinteger : ∀ {digits : List Char} {n : Int64},
      checkedInt64 (readDigits digits) = some n → 0 ≤ n := by
    intro digits n hn
    rw [Int64.le_iff_toInt_le, checkedInt64_toInt hn]
    exact Int.natCast_nonneg _
  unfold scanNumber at h
  dsimp only at h
  split at h
  · split_ifs at h
    · split at h <;> cases h
      next hn => exact hinteger hn
    · cases h
      exact Binary64.ofPoint_unsigned _ _
  · split at h <;> cases h
    next hn => exact hinteger hn

theorem lexical_withEqual {single double : Token} (hs : single.Lexical) (hd : double.Lexical)
    (rest : List Char) : (withEqual single double rest).1.Lexical := by
  unfold withEqual
  split_ifs
  · exact hd
  · exact hs

theorem lexical_pair {position width : ℕ} {c next : Char} {token t : Token} {rest : List Char}
    (ht : token.Lexical) (h : pair position c next token rest = .ok (t, width)) : t.Lexical := by
  unfold pair at h
  split_ifs at h
  cases h
  exact ht

theorem lexical_scan {position width : ℕ} {c : Char} {rest : List Char} {t : Token}
    (h : scan position c rest = .ok (t, width)) : t.Lexical := by
  unfold scan at h
  split at h
  case h_15 => split at h <;> cases h <;> trivial
  case h_16 | h_17 | h_18 =>
    obtain rfl : (withEqual _ _ rest).1 = t := congrArg Prod.fst (Except.ok.inj h)
    exact lexical_withEqual (by trivial) (by trivial) rest
  case h_19 | h_20 | h_21 => exact lexical_pair (by trivial) h
  case h_22 | h_23 =>
    split at h <;> cases h
    trivial
  case h_24 =>
    split_ifs at h with hname
    · cases h
      exact lexical_word (by simp [isWord, hname])
    · exact lexical_scanNumber h
  all_goals (cases h; trivial)

theorem lexical_collect {turns : ℕ} {cursor : Cursor} :
    ∀ t ∈ (Lexed.collect turns cursor).tokens, t.Lexical := by
  induction turns generalizing cursor with
  | zero => simp [Lexed.collect, Lexed.tokens]
  | succ turns ih =>
    rw [Lexed.collect]
    split
    · simp [Lexed.tokens]
    · simp [Lexed.tokens]
    · next token after hnext =>
      refine List.forall_mem_cons.2 ⟨?_, ih⟩
      unfold Cursor.next at hnext
      dsimp only at hnext
      split at hnext
      · cases hnext
      · split at hnext <;> cases hnext
        next hscan => exact lexical_scan hscan

/-- What the lexer gives of a source. -/
theorem lexical_of_tokenizes {source : String} {ts : List Token} (h : Tokenizes source ts) :
    ∀ t ∈ ts, t.Lexical :=
  h.1 ▸ lexical_collect

end Lexer

/-! ### Trees of sources -/

namespace Expr

mutual

/-- Expressions of sources: every name is an identifier and every number is one. -/
def Lexable : Expr → Prop
  | .float x => x.isNaN = false
  | .integer n => n ≠ Int64.minValue
  | .string _ | .boolean _ | .null => True
  | .name n => IsIdentifier n
  | .member base field => base.Lexable ∧ IsIdentifier field
  | .index base position => base.Lexable ∧ position.Lexable
  | .call base method arguments => base.Lexable ∧ IsIdentifier method ∧ AllLexable arguments
  | .lambda parameters body => (∀ p ∈ parameters, IsIdentifier p) ∧ body.Lexable
  | .not operand => operand.Lexable
  | .binary _ left right => left.Lexable ∧ right.Lexable
  | .object entries => EntriesLexable entries
  | .array items => AllLexable items

def AllLexable : List Expr → Prop
  | [] => True
  | e :: es => e.Lexable ∧ AllLexable es

def EntriesLexable : List (String × Expr) → Prop
  | [] => True
  | (_, e) :: es => e.Lexable ∧ EntriesLexable es

end

mutual

/-- How often the text of an expression says something else than the expression: an infinite
number is spelled as a name, a key as a keyword, and a comparison that is compared from the
left stands there without brackets. -/
def faults : Expr → ℕ
  | .float x => if x.isFinite then 0 else 1
  | .integer _ | .string _ | .boolean _ | .null | .name _ => 0
  | .member base _ => base.faults
  | .index base position => base.faults + position.faults
  | .call base _ arguments => base.faults + allFaults arguments
  | .lambda _ body => body.faults
  | .not operand => operand.faults
  | .binary op left right =>
    left.faults + right.faults + if op.isComparison && left.isComparison then 1 else 0
  | .object entries => entryFaults entries
  | .array items => allFaults items

def allFaults : List Expr → ℕ
  | [] => 0
  | e :: es => e.faults + allFaults es

def entryFaults : List (String × Expr) → ℕ
  | [] => 0
  | (key, e) :: es => (if (keyword? key).isSome then 1 else 0) + e.faults + entryFaults es

end

mutual

/-- Without faults, what a source can have can be printed. -/
theorem printable_of_lexable : ∀ e : Expr, e.Lexable → e.faults = 0 → e.Printable
  | .float x, _, hf => by
    rw [faults, ite_eq_left_iff] at hf
    by_contra hx
    exact one_ne_zero (hf hx)
  | .integer _, h, _ | .name _, h, _ => h
  | .string _, _, _ | .boolean _, _, _ | .null, _, _ => trivial
  | .member base _, h, hf => ⟨printable_of_lexable base h.1 hf, h.2⟩
  | .index base position, h, hf =>
    have hparts := Nat.add_eq_zero_iff.1 hf
    ⟨printable_of_lexable base h.1 hparts.1, printable_of_lexable position h.2 hparts.2⟩
  | .call base _ arguments, h, hf =>
    have hparts := Nat.add_eq_zero_iff.1 hf
    ⟨printable_of_lexable base h.1 hparts.1, h.2.1, printable_of_lexables arguments h.2.2 hparts.2⟩
  | .lambda _ body, h, hf => ⟨h.1, printable_of_lexable body h.2 hf⟩
  | .not operand, h, hf => printable_of_lexable operand h hf
  | .binary op left right, h, hf => by
    rw [faults] at hf
    refine ⟨printable_of_lexable left h.1 (by omega), printable_of_lexable right h.2 (by omega),
      fun hop => ?_⟩
    by_contra hleft
    rw [Bool.not_eq_false] at hleft
    simp [hop, hleft] at hf
  | .object entries, h, hf => printable_of_entriesLexable entries h hf
  | .array items, h, hf => printable_of_lexables items h hf

theorem printable_of_lexables : ∀ es : List Expr, AllLexable es → allFaults es = 0 → AllPrintable es
  | [], _, _ => trivial
  | e :: es, h, hf =>
    have hparts := Nat.add_eq_zero_iff.1 hf
    ⟨printable_of_lexable e h.1 hparts.1, printable_of_lexables es h.2 hparts.2⟩

theorem printable_of_entriesLexable : ∀ es : List (String × Expr), EntriesLexable es →
    entryFaults es = 0 → EntriesPrintable es
  | [], _, _ => trivial
  | (key, e) :: es, h, hf => by
    rw [entryFaults] at hf
    refine ⟨?_, printable_of_lexable e h.1 (by omega),
      printable_of_entriesLexable es h.2 (by omega)⟩
    by_contra hkey
    rw [if_pos (Option.isSome_iff_ne_none.2 hkey)] at hf
    omega

end

end Expr

/-! ### Derived trees -/

namespace Grammar

theorem isIdentifier_of_names {ts : List Token} {names : List String} (h : Names ts names)
    (ht : ∀ t ∈ ts, t.Lexical) : ∀ n ∈ names, IsIdentifier n := by
  induction h with
  | nil => simp
  | last name => simpa [Token.Lexical] using ht
  | cons name _ ih =>
    simp only [List.forall_mem_cons] at ht ⊢
    exact ⟨ht.1, ih ht.2.2⟩

/-- The lexer gives no integer whose negative is the least. -/
theorem neg_ne_minValue {n : Int64} (h : 0 ≤ n) : n ≠ Int64.minValue ∧ -n ≠ Int64.minValue := by
  have hn : n ≠ Int64.minValue := by
    rintro rfl
    exact absurd h (by decide)
  refine ⟨hn, fun hneg => hn ?_⟩
  rw [← Int64.neg_neg (a := n), hneg]
  decide

mutual

theorem lexable_of_derives : ∀ {level : Level} {ts : List Token} {e : Expr}, Derives level ts e →
    (∀ t ∈ ts, t.Lexical) → e.Lexable
  | _, _, _, .tighter _ h, ht => lexable_of_derives h ht
  | _, _, _, .arrow name h, ht => by
    simp only [List.forall_mem_cons] at ht
    exact ⟨by simpa [Token.Lexical] using ht.1, lexable_of_derives h ht.2.2⟩
  | _, _, _, .header hn h, ht => by
    simp only [List.forall_mem_cons, List.forall_mem_append] at ht
    exact ⟨isIdentifier_of_names hn ht.2.1, lexable_of_derives h ht.2.2.2.2⟩
  | _, _, _, .chain _ _ hl hr, ht | _, _, _, .comparison _ hl hr, ht => by
    simp only [List.forall_mem_cons, List.forall_mem_append] at ht
    exact ⟨lexable_of_derives hl ht.1, lexable_of_derives hr ht.2.2⟩
  | _, _, _, .negativeInteger n, ht => (neg_ne_minValue (ht (.integer n) (by simp))).2
  | _, _, _, .negativeFloat x, ht => (ht (.float x) (by simp)).2
  | _, _, _, .negation _ h, ht =>
    ⟨(neg_ne_minValue (Int64.le_refl 0)).1,
      lexable_of_derives h fun t hm => ht t (List.mem_cons_of_mem _ hm)⟩
  | _, _, _, .not h, ht => by
    have hoperand := lexable_of_derives h fun t hm => ht t (List.mem_cons_of_mem _ hm)
    exact hoperand
  | _, _, _, .member field h, ht => by
    simp only [List.forall_mem_cons, List.forall_mem_append] at ht
    exact ⟨lexable_of_derives h ht.1, ht.2.2.1⟩
  | _, _, _, .call method h ha, ht => by
    simp only [List.forall_mem_cons, List.forall_mem_append] at ht
    exact ⟨lexable_of_derives h ht.1, ht.2.2.1, lexable_of_items ha ht.2.2.2.2.1⟩
  | _, _, _, .index h hp, ht => by
    simp only [List.forall_mem_cons, List.forall_mem_append] at ht
    exact ⟨lexable_of_derives h ht.1, lexable_of_derives hp ht.2.2.1⟩
  | _, _, _, .float x, ht => (ht (.float x) (by simp)).2
  | _, _, _, .integer n, ht => (neg_ne_minValue (ht (.integer n) (by simp))).1
  | _, _, _, .string _, _ | _, _, _, .boolean _, _ | _, _, _, .null, _ => trivial
  | _, _, _, .name n, ht => ht (.identifier n) (by simp)
  | _, _, _, .group h, ht => by
    simp only [List.forall_mem_cons, List.forall_mem_append] at ht
    exact lexable_of_derives h ht.2.1
  | _, _, _, .object h, ht => by
    simp only [List.forall_mem_cons, List.forall_mem_append] at ht
    exact lexable_of_entries h ht.2.1
  | _, _, _, .array h, ht => by
    simp only [List.forall_mem_cons, List.forall_mem_append] at ht
    exact lexable_of_items h ht.2.1

theorem lexable_of_items : ∀ {ts : List Token} {es : List Expr}, Items ts es →
    (∀ t ∈ ts, t.Lexical) → Expr.AllLexable es
  | _, _, .nil, _ => trivial
  | _, _, .last h, ht => ⟨lexable_of_derives h ht, trivial⟩
  | _, _, .cons h hs, ht => by
    simp only [List.forall_mem_cons, List.forall_mem_append] at ht
    exact ⟨lexable_of_derives h ht.1, lexable_of_items hs ht.2.2⟩

theorem lexable_of_entries : ∀ {ts : List Token} {es : List (String × Expr)}, Entries ts es →
    (∀ t ∈ ts, t.Lexical) → Expr.EntriesLexable es
  | _, _, .nil, _ => trivial
  | _, _, .last _ h, ht => by
    simp only [List.forall_mem_cons] at ht
    exact ⟨lexable_of_derives h ht.2.2, trivial⟩
  | _, _, .cons _ h hs, ht => by
    simp only [List.forall_mem_cons, List.forall_mem_append] at ht
    exact ⟨lexable_of_derives h ht.2.2.1, lexable_of_entries hs ht.2.2.2.2⟩

end

end Grammar

/-- What parses is a tree of a source. -/
theorem lexable_of_parse {source : String} {e : Expr} (h : parse source = .ok e) : e.Lexable := by
  obtain ⟨ts, ht, hd⟩ := derives_of_parse h
  exact lexable_of_derives hd (lexical_of_tokenizes ht)

end Projections
