import Projections.Proofs.Language.Lexable

/-! Parsed expressions and their texts. Tokens are weighed by brackets, numbers and words,
and whatever derives an expression is at least as heavy as the expression costs. Each fault
of the text takes one from its weight, so a text with a fault derives another expression or
none, and one without derives the expression it stands for. -/

namespace Projections

open Grammar Lexer

/-! ### Weights -/

/-- An opening bracket and a number with a fraction weigh one. A keyword weighs one less than
an identifier, as a key may be spelled like it, and an integer weighs one less than nothing,
as a negation derives a subtraction from a zero that is written nowhere. -/
def Token.weight : Token → ℤ
  | .openParen | .float _ => 1
  | .integer _ | .boolean _ | .null | .and | .or => -1
  | .string _ | .identifier _ | .arrow | .equal | .notEqual | .less | .greater | .lessEqual
  | .greaterEqual | .plus | .minus | .star | .slash | .percent | .bang | .coalesce
  | .openBracket | .closeBracket | .closeParen | .openBrace | .closeBrace | .dot | .comma
  | .colon => 0

def weight (ts : List Token) : ℤ := (ts.map Token.weight).sum

@[simp] theorem weight_nil : weight [] = 0 := rfl

@[simp] theorem weight_cons (t : Token) (ts : List Token) :
    weight (t :: ts) = t.weight + weight ts := by
  simp [weight]

@[simp] theorem weight_append (ts us : List Token) : weight (ts ++ us) = weight ts + weight us := by
  simp [weight]

theorem weight_word (cs : List Char) :
    (word cs).weight = if (keyword? (String.ofList cs)).isSome then -1 else 0 := by
  rw [word]
  cases hk : keyword? (String.ofList cs) with
  | none => rfl
  | some t =>
    unfold keyword? at hk
    split at hk <;> cases hk <;> rfl

theorem weight_names {ts : List Token} {names : List String} (h : Names ts names) :
    weight ts = 0 := by
  induction h with
  | nil | last => rfl
  | cons _ _ ih => simp [ih, Token.weight]

theorem weight_key {t : Token} {key : String} (h : IsKey t key) : t.weight = 0 := by
  rcases h with rfl | rfl <;> rfl

/-! ### Costs -/

/-- How tightly the grammar wants the left operand of an operator to bind. -/
def BinaryOp.leftRank (op : BinaryOp) : ℕ := if op.isComparison then 5 else op.precedence

namespace Expr

/-- A pair of brackets, where an expression binds looser than its place. -/
def gap (e : Expr) (rank : ℕ) : ℤ := if e.precedence < rank then 1 else 0

/-- Parameters need brackets, unless there is one. -/
def headerCost : List String → ℤ
  | [_] => 0
  | _ => 1

mutual

/-- The weight that tokens need to derive an expression. -/
def cost : Expr → ℤ
  | .float _ => 1
  | .integer _ | .boolean _ | .null => -1
  | .string _ | .name _ => 0
  | .member base _ => base.cost + base.gap 8
  | .index base position => base.cost + base.gap 8 + position.cost
  | .call base _ arguments => base.cost + base.gap 8 + (1 + allCost arguments)
  | .lambda parameters body => headerCost parameters + body.cost
  | .not operand => operand.cost + operand.gap 7
  | .binary op left right =>
    left.cost + left.gap op.leftRank +
      (op.sign.weight + (right.cost + right.gap (op.precedence + 1)))
  | .object entries => entryCost entries
  | .array items => allCost items

def allCost : List Expr → ℤ
  | [] => 0
  | e :: es => e.cost + allCost es

def entryCost : List (String × Expr) → ℤ
  | [] => 0
  | (_, e) :: es => e.cost + entryCost es

end

theorem gap_of_le (e : Expr) {rank : ℕ} (h : rank ≤ e.precedence) : e.gap rank = 0 :=
  if_neg (Nat.not_lt.2 h)

theorem gap_le_one (e : Expr) (rank : ℕ) : e.gap rank ≤ 1 := by
  unfold gap
  split_ifs <;> decide

theorem gap_mono (e : Expr) {low high : ℕ} (h : low ≤ high) : e.gap low ≤ e.gap high := by
  unfold gap
  split_ifs <;> omega

theorem headerCost_le_one (parameters : List String) : headerCost parameters ≤ 1 := by
  unfold headerCost
  split <;> decide

end Expr

/-! ### What derivations weigh -/

namespace Grammar

theorem of_mem_chained {level : Level} : ∀ p ∈ level.chained,
    p.1 = p.2.sign ∧ p.2.precedence = level.rank ∧ p.2.isComparison = false := by
  cases level <;> decide

theorem of_mem_comparisons : ∀ p ∈ comparisons,
    p.1 = p.2.sign ∧ p.2.precedence = 4 ∧ p.2.isComparison = true := by
  decide

/-- The place of a level, on the scale of expressions. -/
def Level.place (level : Level) : ℕ := min level.rank 8

/-- Everything binds tightly enough where an expression may stand. -/
theorem gap_expression (e : Expr) : e.gap Level.expression.place = 0 :=
  e.gap_of_le (Nat.zero_le _)

theorem Level.place_le_next {level next : Level} (hn : level.next? = some next) :
    level.place ≤ next.place := by
  have hrank := rank_next hn
  unfold Level.place
  omega

theorem Level.place_of_chained {level next : Level} {p : Token × BinaryOp}
    (hn : level.next? = some next) (hp : p ∈ level.chained) :
    level.place = p.2.precedence ∧ next.place = p.2.precedence + 1 := by
  have hrank := rank_next hn
  obtain ⟨-, hlevel, -⟩ := of_mem_chained p hp
  have hle := p.2.precedence_le
  unfold Level.place
  omega

/-- An expression that binds as tightly as its place has no brackets to pay for. -/
theorem cost_le_of_place {level : Level} {ts : List Token} {e : Expr}
    (hp : level.place ≤ e.precedence) (h : e.cost ≤ weight ts) :
    e.cost + e.gap level.place ≤ weight ts := by
  rwa [e.gap_of_le hp, add_zero]

/-- Two operands around an operator. -/
theorem cost_binary_le {op : BinaryOp} {sign : Token} {level : Level} {ls rs : List Token}
    {left right : Expr} (hsign : sign = op.sign) (hplace : level.place = op.precedence)
    (hl : left.cost + left.gap op.leftRank ≤ weight ls)
    (hr : right.cost + right.gap (op.precedence + 1) ≤ weight rs) :
    (Expr.binary op left right).cost + (Expr.binary op left right).gap level.place ≤
      weight (ls ++ sign :: rs) := by
  refine cost_le_of_place hplace.le ?_
  rw [Expr.cost, weight_append, weight_cons, hsign]
  omega

mutual

/-- Tokens weigh what the expression they derive costs, and a pair of brackets more where
it binds looser than the level. -/
theorem cost_le_of_derives : ∀ {level : Level} {ts : List Token} {e : Expr},
    Derives level ts e → (∀ t ∈ ts, t.Lexical) → e.cost + e.gap level.place ≤ weight ts
  | _, _, e, .tighter hn h, ht => by
    have hle := cost_le_of_derives h ht
    have hgap := e.gap_mono (Level.place_le_next hn)
    omega
  | _, _, _, .arrow name h, ht => by
    simp only [List.forall_mem_cons] at ht
    have hbody := cost_le_of_derives h ht.2.2
    rw [gap_expression] at hbody
    refine cost_le_of_place (Nat.zero_le _) ?_
    simp only [Expr.cost, Expr.headerCost, weight_cons, Token.weight]
    omega
  | _, _, .lambda names _, .header hn h, ht => by
    simp only [List.forall_mem_cons, List.forall_mem_append] at ht
    have hbody := cost_le_of_derives h ht.2.2.2.2
    have hheader := Expr.headerCost_le_one names
    rw [gap_expression] at hbody
    refine cost_le_of_place (Nat.zero_le _) ?_
    simp only [Expr.cost, weight_append, weight_cons, weight_names hn, Token.weight]
    omega
  | _, _, _, .chain hn hs hl hr, ht => by
    simp only [List.forall_mem_cons, List.forall_mem_append] at ht
    obtain ⟨hsign, -, hop⟩ := of_mem_chained _ hs
    obtain ⟨hplace, hnext⟩ := Level.place_of_chained hn hs
    have hleft := cost_le_of_derives hl ht.1
    have hright := cost_le_of_derives hr ht.2.2
    refine cost_binary_le hsign hplace ?_ (hnext ▸ hright)
    rwa [BinaryOp.leftRank, if_neg (by simp [hop]), ← hplace]
  | _, _, _, .comparison hs hl hr, ht => by
    simp only [List.forall_mem_cons, List.forall_mem_append] at ht
    obtain ⟨hsign, hprec, hop⟩ := of_mem_comparisons _ hs
    have hleft := cost_le_of_derives hl ht.1
    have hright := cost_le_of_derives hr ht.2.2
    refine cost_binary_le hsign hprec.symm ?_ (by rwa [hprec])
    rwa [BinaryOp.leftRank, if_pos hop]
  | _, _, _, .negativeInteger n, ht => by
    refine cost_le_of_place ?_ (le_refl _)
    rw [Expr.precedence]
    split_ifs <;> decide
  | _, _, _, .negativeFloat x, ht => by
    refine cost_le_of_place ?_ (le_refl _)
    rw [Expr.precedence]
    split_ifs <;> decide
  | _, _, .binary _ _ operand, .negation _ h, ht => by
    -- the zero that is written nowhere pays for the brackets that a negation has no need of
    have hoperand := cost_le_of_derives h fun t hm => ht t (List.mem_cons_of_mem _ hm)
    change operand.cost + operand.gap 7 ≤ _ at hoperand
    have hgap := operand.gap_mono (by decide : 6 ≤ 7)
    have hown := (Expr.binary .subtract (.integer 0) operand).gap_le_one Level.unary.place
    have hzero : (Expr.integer 0).cost + (Expr.integer 0).gap BinaryOp.subtract.leftRank = -1 := rfl
    rw [Expr.cost, hzero, weight_cons]
    change -1 + (0 + (operand.cost + operand.gap 6)) + _ ≤ 0 + _
    omega
  | _, _, .not operand, .not h, ht => by
    have hoperand := cost_le_of_derives h fun t hm => ht t (List.mem_cons_of_mem _ hm)
    change operand.cost + operand.gap 7 ≤ _ at hoperand
    refine cost_le_of_place (le_refl 7) ?_
    simp only [Expr.cost, weight_cons, Token.weight]
    omega
  | _, _, .member base _, .member _ h, ht => by
    simp only [List.forall_mem_cons, List.forall_mem_append] at ht
    have hbase := cost_le_of_derives h ht.1
    change base.cost + base.gap 8 ≤ _ at hbase
    refine cost_le_of_place (le_refl 8) ?_
    simp only [Expr.cost, weight_append, weight_cons, weight_nil, Token.weight]
    omega
  | _, _, .call base _ _, .call _ h ha, ht => by
    simp only [List.forall_mem_cons, List.forall_mem_append] at ht
    have hbase := cost_le_of_derives h ht.1
    change base.cost + base.gap 8 ≤ _ at hbase
    have harguments := cost_le_of_items ha ht.2.2.2.2.1
    refine cost_le_of_place (le_refl 8) ?_
    simp only [Expr.cost, weight_append, weight_cons, weight_nil, Token.weight]
    omega
  | _, _, .index base _, .index h hp, ht => by
    simp only [List.forall_mem_cons, List.forall_mem_append] at ht
    have hbase := cost_le_of_derives h ht.1
    change base.cost + base.gap 8 ≤ _ at hbase
    have hposition := cost_le_of_derives hp ht.2.2.1
    rw [gap_expression] at hposition
    refine cost_le_of_place (le_refl 8) ?_
    simp only [Expr.cost, weight_append, weight_cons, weight_nil, Token.weight]
    omega
  | _, _, _, .float x, ht => by
    refine cost_le_of_place ?_ (le_refl _)
    rw [Expr.precedence, if_neg (by simp [(ht (.float x) (by simp)).1])]
    exact le_refl 8
  | _, _, _, .integer n, ht => by
    have hn : 0 ≤ n := ht (.integer n) (by simp)
    refine cost_le_of_place ?_ (le_refl _)
    rw [Expr.precedence, if_neg (Int64.not_lt.2 hn)]
    exact le_refl 8
  | _, _, _, .string _, _ | _, _, _, .boolean _, _ | _, _, _, .null, _ | _, _, _, .name _, _ =>
    cost_le_of_place (le_refl 8) (le_refl _)
  | _, _, e, .group h, ht => by
    simp only [List.forall_mem_cons, List.forall_mem_append] at ht
    have hinner := cost_le_of_derives h ht.2.1
    have hgap := e.gap_le_one 8
    rw [gap_expression] at hinner
    change e.cost + e.gap 8 ≤ _
    simp only [weight_append, weight_cons, weight_nil, Token.weight]
    omega
  | _, _, _, .object h, ht => by
    simp only [List.forall_mem_cons, List.forall_mem_append] at ht
    have hentries := cost_le_of_entries h ht.2.1
    refine cost_le_of_place (le_refl 8) ?_
    simp only [Expr.cost, weight_append, weight_cons, weight_nil, Token.weight]
    omega
  | _, _, _, .array h, ht => by
    simp only [List.forall_mem_cons, List.forall_mem_append] at ht
    have hitems := cost_le_of_items h ht.2.1
    refine cost_le_of_place (le_refl 8) ?_
    simp only [Expr.cost, weight_append, weight_cons, weight_nil, Token.weight]
    omega

theorem cost_le_of_items : ∀ {ts : List Token} {es : List Expr}, Items ts es →
    (∀ t ∈ ts, t.Lexical) → Expr.allCost es ≤ weight ts
  | _, _, .nil, _ => le_refl _
  | _, _, .last h, ht => by
    have hitem := cost_le_of_derives h ht
    rw [gap_expression] at hitem
    simp only [Expr.allCost]
    omega
  | _, _, .cons h hs, ht => by
    simp only [List.forall_mem_cons, List.forall_mem_append] at ht
    have hitem := cost_le_of_derives h ht.1
    have hitems := cost_le_of_items hs ht.2.2
    rw [gap_expression] at hitem
    simp only [Expr.allCost, weight_append, weight_cons, Token.weight]
    omega

theorem cost_le_of_entries : ∀ {ts : List Token} {es : List (String × Expr)}, Entries ts es →
    (∀ t ∈ ts, t.Lexical) → Expr.entryCost es ≤ weight ts
  | _, _, .nil, _ => le_refl _
  | _, _, .last hk h, ht => by
    simp only [List.forall_mem_cons] at ht
    have hitem := cost_le_of_derives h ht.2.2
    rw [gap_expression] at hitem
    rw [Expr.entryCost, weight_cons, weight_key hk]
    simp only [Expr.entryCost, weight_cons, Token.weight]
    omega
  | _, _, .cons hk h hs, ht => by
    simp only [List.forall_mem_cons, List.forall_mem_append] at ht
    have hitem := cost_le_of_derives h ht.2.2.1
    have hitems := cost_le_of_entries hs ht.2.2.2.2
    rw [gap_expression] at hitem
    rw [Expr.entryCost, weight_cons, weight_key hk]
    simp only [weight_append, weight_cons, Token.weight]
    omega

end

end Grammar

/-! ### What texts weigh -/

/-- The characters do not begin like the second half of a comparison sign. -/
def Opens (cs : List Char) : Prop := ∃ c more, cs = c :: more ∧ c ≠ '='

theorem Opens.append {cs : List Char} (h : Opens cs) (ds : List Char) : Opens (cs ++ ds) := by
  obtain ⟨c, more, rfl, hc⟩ := h
  exact ⟨c, more ++ ds, rfl, hc⟩

theorem Opens.bracketed {text : String} (h : Opens text.toList) (needed : Bool) :
    Opens (Projections.bracketed needed text).toList := by
  cases needed with
  | false => exact h
  | true => exact ⟨'(', text.toList ++ [')'], by simp [Projections.bracketed], by decide⟩

/-- Keywords are words. -/
theorem isWord_of_keyword {key : String} {t : Token} (h : keyword? key = some t) :
    isWord key.toList = true := by
  unfold keyword? at h
  split at h <;> first | rfl | cases h

/-- An infinite number is spelled as a name. -/
theorem Binary64.sourceText_infinite {x : Binary64} (h : x.isFinite = false)
    (hn : x.isNaN = false) : x.sourceText = x.signed ['i', 'n', 'f'] := by
  have hinfinite : x.isInfinite = true := by
    simp only [Binary64.isFinite, Binary64.isNaN, decide_eq_false_iff_not] at h hn
    exact beq_iff_eq.2 (by omega)
  rw [Binary64.sourceText, Binary64.isIntegral, h, Binary64.text, hn, hinfinite]
  rfl

/-- The characters are tokens of that weight, before anything that does not go on with them. -/
def Weighs (cs : List Char) (n : ℤ) : Prop := ∃ ts, Spells cs ts ∧ weight ts = n

namespace Weighs

variable {cs ds : List Char} {m n : ℤ}

theorem of_eq (h : Weighs cs m) (he : m = n) : Weighs cs n := he ▸ h

theorem word (h : isWord cs = true) :
    Weighs cs (if (keyword? (String.ofList cs)).isSome then -1 else 0) := by
  refine ⟨_, .word h, ?_⟩
  rw [weight_cons, weight_word, weight_nil, add_zero]

theorem identifier {name : String} (h : IsIdentifier name) : Weighs name.toList 0 :=
  ⟨_, .identifier h, rfl⟩

theorem comma (h : Weighs cs m) (h' : Weighs ds n) : Weighs (cs ++ ',' :: ' ' :: ds) (m + n) := by
  obtain ⟨ts, hs, rfl⟩ := h
  obtain ⟨us, hs', rfl⟩ := h'
  exact ⟨_, hs.comma hs', by simp [Token.weight]⟩

theorem parens (h : Weighs cs n) : Weighs ('(' :: (cs ++ [')'])) (1 + n) := by
  obtain ⟨ts, hs, rfl⟩ := h
  exact ⟨_, hs.parens, by simp [Token.weight]⟩

theorem brackets (h : Weighs cs n) : Weighs ('[' :: (cs ++ [']'])) n := by
  obtain ⟨ts, hs, rfl⟩ := h
  exact ⟨_, hs.brackets, by simp [Token.weight]⟩

/-- The operand of an operator or a suffix. -/
theorem bracketed {e : Expr} (h : Weighs e.text.toList n) (rank : ℕ) :
    Weighs (Projections.bracketed (e.precedence < rank) e.text).toList (n + e.gap rank) := by
  unfold Projections.bracketed Expr.gap
  split_ifs with hneeded hlt hlt
  · have hparens := h.parens
    simp only [String.toList_append, List.append_assoc]
    rwa [add_comm]
  · exact absurd (of_decide_eq_true hneeded) hlt
  · exact absurd (decide_eq_true hlt) hneeded
  · rwa [add_zero]

theorem member {field : String} (h : Weighs cs n) (hf : IsIdentifier field) :
    Weighs (cs ++ '.' :: field.toList) n := by
  obtain ⟨ts, hs, rfl⟩ := h
  exact ⟨_, hs.member hf, by simp [Token.weight]⟩

theorem call {method : String} (h : Weighs cs m) (hm : IsIdentifier method) (h' : Weighs ds n) :
    Weighs (cs ++ '.' :: (method.toList ++ '(' :: (ds ++ [')']))) (m + (1 + n)) := by
  obtain ⟨ts, hs, rfl⟩ := h
  obtain ⟨us, hs', rfl⟩ := h'
  exact ⟨_, .call hm hs hs', by simp [Token.weight]⟩

theorem index (h : Weighs cs m) (h' : Weighs ds n) :
    Weighs (cs ++ '[' :: (ds ++ [']'])) (m + n) := by
  obtain ⟨ts, hs, rfl⟩ := h
  obtain ⟨us, hs', rfl⟩ := h'
  exact ⟨_, hs.index hs', by simp [Token.weight]⟩

theorem not (h : Weighs cs n) (ho : Opens cs) : Weighs ('!' :: cs) n := by
  obtain ⟨ts, hs, rfl⟩ := h
  obtain ⟨c, more, rfl, hc⟩ := ho
  exact ⟨_, .bang hc hs, by simp [Token.weight]⟩

theorem binary (op : BinaryOp) (h : Weighs cs m) (h' : Weighs ds n) :
    Weighs (cs ++ ' ' :: (op.symbol.toList ++ ' ' :: ds)) (m + (op.sign.weight + n)) := by
  obtain ⟨ts, hs, rfl⟩ := h
  obtain ⟨us, hs', rfl⟩ := h'
  exact ⟨_, hs.binary op hs', by simp⟩

theorem function (h : Weighs cs m) (h' : Weighs ds n) :
    Weighs (cs ++ ' ' :: '=' :: '>' :: ' ' :: ds) (m + n) := by
  obtain ⟨ts, hs, rfl⟩ := h
  obtain ⟨us, hs', rfl⟩ := h'
  exact ⟨_, hs.function hs', by simp [Token.weight]⟩

theorem braces (h : Weighs cs n) : Weighs ('\x7b' :: ' ' :: (cs ++ [' ', '\x7d'])) n := by
  obtain ⟨ts, hs, rfl⟩ := h
  exact ⟨_, hs.braces, by simp [Token.weight]⟩

theorem entry (h : Weighs cs m) (h' : Weighs ds n) : Weighs (cs ++ ':' :: ' ' :: ds) (m + n) := by
  obtain ⟨ts, hs, rfl⟩ := h
  obtain ⟨us, hs', rfl⟩ := h'
  exact ⟨_, hs.entry hs', by simp [Token.weight]⟩

theorem separated {names : List String} (h : ∀ n ∈ names, IsIdentifier n) :
    Weighs (Projections.separated names).toList 0 := by
  obtain ⟨ts, hs, hn⟩ := printsNames_separated h
  exact ⟨ts, hs, weight_names hn⟩

/-- A key that is a keyword weighs too little. -/
theorem key (key : String) :
    Weighs (Expr.keyText key).toList (-(if (keyword? key).isSome then 1 else 0 : ℕ)) := by
  unfold Expr.keyText
  cases hword : isWord key.toList with
  | true =>
    have hw := Weighs.word hword
    rw [String.ofList_toList] at hw
    rw [if_pos rfl]
    split_ifs at hw ⊢ <;> exact hw
  | false =>
    have hnone : keyword? key = none := by
      cases hk : keyword? key with
      | none => rfl
      | some t => rw [isWord_of_keyword hk] at hword; cases hword
    rw [if_neg Bool.false_ne_true, hnone]
    exact ⟨_, .string key, rfl⟩

theorem signed {x : Binary64} {size : List Char} (h : Weighs size n) :
    Weighs (x.signed size).toList n := by
  rw [Binary64.signed, String.toList_ofList]
  split_ifs
  · obtain ⟨ts, hs, rfl⟩ := h
    exact ⟨_, .sign (t := .minus) rfl (fun _ _ => rfl) hs, by simp [Token.weight]⟩
  · exact h

/-- A number with a fraction weighs one, and the name of an infinite one nothing. -/
theorem float {x : Binary64} (h : x.isNaN = false) :
    Weighs x.sourceText.toList (1 - (if x.isFinite then 0 else 1 : ℕ)) := by
  cases hx : x.isFinite with
  | true =>
    obtain ⟨front, back, htext, hp⟩ := Binary64.sourceText_pointed hx
    rw [htext]
    exact .signed ⟨_, .float hp, rfl⟩
  | false =>
    have hinf : Weighs "inf".toList 0 := .identifier ⟨rfl, rfl⟩
    rw [Binary64.sourceText_infinite hx h]
    exact .signed hinf

theorem integer {n : Int64} (h : n ≠ Int64.minValue) : Weighs (toString n).toList (-1) := by
  obtain ⟨k, ⟨hcheck, htext⟩ | ⟨-, hcheck, htext⟩⟩ := Prints.text_of_integer h
  · rw [htext]
    exact ⟨_, .integer hcheck, rfl⟩
  · rw [htext]
    exact ⟨_, .sign (t := .minus) rfl (fun _ _ => rfl) (.integer hcheck), rfl⟩

end Weighs

namespace Expr

theorem precedence_of_isComparison {e : Expr} (h : e.isComparison = true) : e.precedence = 4 := by
  cases e <;> try cases h
  next op _ _ => cases op <;> first | rfl | cases h

/-- A comparison that is compared from the left stands without the brackets it needs. -/
theorem gap_leftRank (op : BinaryOp) (left : Expr) :
    left.gap op.leftRank = left.gap op.precedence +
      (if op.isComparison && left.isComparison then 1 else 0 : ℕ) := by
  unfold gap BinaryOp.leftRank
  cases hop : op.isComparison with
  | false => simp
  | true =>
    have hprec : op.precedence = 4 := by cases op <;> first | rfl | cases hop
    cases hleft : left.isComparison with
    | true =>
      rw [hprec, precedence_of_isComparison hleft]
      rfl
    | false =>
      have hne : left.precedence ≠ 4 := fun heq => by
        rw [isComparison_of_precedence_eq heq] at hleft
        cases hleft
      have hsame : left.precedence < 5 ↔ left.precedence < 4 := by omega
      simp [hprec, hsame]

/-- The text of an expression of a source begins like an expression. -/
theorem opens_text : ∀ e : Expr, e.Lexable → Opens e.text.toList
  | .float x, h => by
    cases hx : x.isFinite with
    | true => exact (Prints.float hx (Nat.zero_le _) : Prints .expression _ _).opens
    | false =>
      rw [text, Binary64.sourceText_infinite hx h, Binary64.signed, String.toList_ofList]
      split_ifs <;> exact ⟨_, _, rfl, by decide⟩
  | .integer _, h => (Prints.integer h (Nat.zero_le _) : Prints .expression _ _).opens
  | .string s, _ => (Prints.string s).opens
  | .boolean true, _ | .boolean false, _ | .null, _ => ⟨_, _, rfl, by decide⟩
  | .name _, h => (Prints.name h).opens
  | .member base _, h | .index base _, h | .call base _ _, h | .binary _ base _, h => by
    have hbase := opens_text base h.1
    simp only [text, String.toList_append, List.append_assoc]
    exact (hbase.bracketed _).append _
  | .lambda parameters _, h => by
    rw [text]
    unfold lambdaText
    split
    · next parameter =>
      simp only [String.toList_append, List.append_assoc]
      exact opens_of_isWord (h.1 parameter (List.mem_singleton.2 rfl)).1 _
    · simp only [String.toList_append, List.append_assoc]
      exact ⟨_, _, rfl, by decide⟩
  | .not _, _ => by
    rw [text, String.toList_append]
    exact ⟨_, _, rfl, by decide⟩
  | .object [], _ => ⟨_, _, rfl, by decide⟩
  | .object (_ :: _), _ | .array _, _ => by
    simp only [text, List.isEmpty_cons, Bool.false_eq_true, if_false, String.toList_append,
      List.append_assoc]
    exact ⟨_, _, rfl, by decide⟩

mutual

/-- The text of an expression of a source weighs what the expression costs, less its faults. -/
theorem weighs_text : ∀ e : Expr, e.Lexable → Weighs e.text.toList (e.cost - e.faults)
  | .float x, h => .float h
  | .integer n, h => .integer h
  | .string s, _ => ⟨_, .string s, rfl⟩
  | .boolean true, _ => (Weighs.word rfl : Weighs "true".toList _)
  | .boolean false, _ => (Weighs.word rfl : Weighs "false".toList _)
  | .null, _ => (Weighs.word rfl : Weighs "null".toList _)
  | .name n, h => .identifier h
  | .member base field, h => by
    have hmember := ((weighs_text base h.1).bracketed 8).member h.2
    rw [text, String.toList_append, String.toList_append, List.append_assoc]
    refine hmember.of_eq ?_
    rw [cost, faults]
    omega
  | .index base position, h => by
    have hindex := ((weighs_text base h.1).bracketed 8).index (weighs_text position h.2)
    simp only [text, String.toList_append, List.append_assoc]
    refine hindex.of_eq ?_
    rw [cost, faults]
    omega
  | .call base method arguments, h => by
    have hcall := ((weighs_text base h.1).bracketed 8).call h.2.1 (weighs_texts arguments h.2.2)
    simp only [text, String.toList_append, List.append_assoc]
    refine hcall.of_eq ?_
    rw [cost, faults]
    omega
  | .lambda parameters body, h => by
    have hbody := weighs_text body h.2
    have hheader := (Weighs.separated h.1).parens.function hbody
    rw [List.cons_append, List.append_assoc] at hheader
    rw [text]
    unfold lambdaText
    split
    · next parameter =>
      have hparameter := h.1 parameter (List.mem_singleton.2 rfl)
      have hfunction := (Weighs.identifier hparameter).function hbody
      simp only [String.toList_append, List.append_assoc]
      refine hfunction.of_eq ?_
      rw [cost, faults, headerCost]
      omega
    · next hne =>
      simp only [String.toList_append, List.append_assoc]
      refine hheader.of_eq ?_
      rw [cost, faults, headerCost]
      · omega
      · exact hne
  | .not operand, h => by
    have hoperand := opens_text operand h
    have hnot := ((weighs_text operand h).bracketed 7).not (hoperand.bracketed _)
    rw [text, String.toList_append]
    refine hnot.of_eq ?_
    rw [cost, faults]
    omega
  | .binary op left right, h => by
    have hleft := (weighs_text left h.1).bracketed op.precedence
    have hright := (weighs_text right h.2).bracketed (op.precedence + 1)
    have hbinary := hleft.binary op hright
    simp only [text, String.toList_append, List.append_assoc]
    refine hbinary.of_eq ?_
    rw [cost, faults, gap_leftRank]
    omega
  | .object [], _ => ⟨_, .emptyBraces, rfl⟩
  | .object (entry :: entries), h => by
    have hobject := (weighs_entryTexts (entry :: entries) h).braces
    rw [text, if_neg (by simp)]
    simp only [String.toList_append, List.append_assoc]
    exact hobject
  | .array items, h => by
    have harray := (weighs_texts items h).brackets
    simp only [text, String.toList_append, List.append_assoc]
    exact harray

theorem weighs_texts : ∀ es : List Expr, AllLexable es →
    Weighs (separated (texts es)).toList (allCost es - allFaults es)
  | [], _ => ⟨[], .nil, rfl⟩
  | [e], h => by
    rw [texts, texts, separated_singleton]
    refine (weighs_text e h.1).of_eq ?_
    simp [allCost, allFaults]
  | e :: second :: es, h => by
    have hrest := weighs_texts (second :: es) h.2
    rw [texts] at hrest
    rw [texts, texts, separated_cons_cons]
    refine ((weighs_text e h.1).comma hrest).of_eq ?_
    simp only [allCost, allFaults]
    omega

theorem weighs_entryTexts : ∀ es : List (String × Expr), EntriesLexable es →
    Weighs (separated (entryTexts es)).toList (entryCost es - entryFaults es)
  | [], _ => ⟨[], .nil, rfl⟩
  | [(key, e)], h => by
    have hentry := (Weighs.key key).entry (weighs_text e h.1)
    rw [entryTexts, entryTexts, separated_singleton]
    simp only [String.toList_append, List.append_assoc]
    refine hentry.of_eq ?_
    simp only [entryCost, entryFaults]
    omega
  | (key, e) :: second :: es, h => by
    have hentry := (Weighs.key key).entry (weighs_text e h.1)
    have hrest := weighs_entryTexts (second :: es) h.2
    rw [entryTexts] at hrest
    rw [entryTexts, entryTexts, separated_cons_cons]
    have hentries := hentry.comma hrest
    simp only [List.append_assoc, List.cons_append] at hentries
    simp only [String.toList_append, List.append_assoc]
    refine hentries.of_eq ?_
    simp only [entryCost, entryFaults]
    omega

end

end Expr

/-! ### Texts that parse again -/

theorem tokenizes_of_spells {source : String} {ts : List Token} (h : Spells source.toList ts) :
    Tokenizes source ts := by
  have hlexes := h [] [] stops_nil .nil
  rw [List.append_nil, List.append_nil] at hlexes
  exact tokenizes_of_lexes hlexes

/-- What a source parses to is read again from its canonical text exactly if the text has no
fault. -/
theorem parse_text_iff_faults_eq_zero {source : String} {e : Expr} (h : parse source = .ok e) :
    parse e.text = .ok e ↔ e.faults = 0 := by
  have hlexable := lexable_of_parse h
  constructor
  · intro hparse
    obtain ⟨ts, ht, hd⟩ := derives_of_parse hparse
    obtain ⟨us, hs, hweight⟩ := e.weighs_text hlexable
    obtain rfl : us = ts := (tokenizes_of_spells hs).1.symm.trans ht.1
    -- the text derives the expression, so it weighs the cost, and no fault took from it
    have hle := cost_le_of_derives hd (lexical_of_tokenizes ht)
    rw [gap_expression] at hle
    omega
  · intro hfaults
    have hprintable := e.printable_of_lexable hlexable hfaults
    obtain ⟨ts, hs, hd⟩ := (e.prints_text hprintable .expression (Nat.zero_le _)).spelled
    exact parse_of_derives (tokenizes_of_spells hs) hd

/-- Brackets around a comparison that is negated are kept. -/
theorem parse_text_of_negated_comparison :
    let e := Expr.not (.binary .equal (.name "a") (.name "b"))
    parse "!(a == b)" = .ok e ∧ parse e.text = .ok e := by
  intro e
  have hlex : lex "!(a == b)" =
      ⟨[⟨.bang, 1⟩, ⟨.openParen, 2⟩, ⟨.identifier "a", 3⟩, ⟨.equal, 6⟩, ⟨.identifier "b", 8⟩,
        ⟨.closeParen, 9⟩], .finished 9⟩ := by
    decide +kernel
  have hparse : parse "!(a == b)" = .ok e := by
    rw [parse, hlex]
    rfl
  exact ⟨hparse, (parse_text_iff_faults_eq_zero hparse).2 rfl⟩

/-- A key that is spelled like a keyword loses its quotes, and the text does not parse. -/
theorem keyword_key_not_parsed_again :
    let e := Expr.object [("null", .integer 1)]
    parse "\x7b \"null\": 1 \x7d" = .ok e ∧ e.text = "\x7b null: 1 \x7d" ∧
      parse e.text ≠ .ok e := by
  intro e
  have hlex : lex "\x7b \"null\": 1 \x7d" =
      ⟨[⟨.openBrace, 1⟩, ⟨.string "null", 8⟩, ⟨.colon, 9⟩, ⟨.integer 1, 11⟩, ⟨.closeBrace, 13⟩],
        .finished 13⟩ := by
    decide +kernel
  have htext : e.text = "\x7b null: 1 \x7d" := by decide +kernel
  have hagain : lex "\x7b null: 1 \x7d" =
      ⟨[⟨.openBrace, 1⟩, ⟨.null, 6⟩, ⟨.colon, 7⟩, ⟨.integer 1, 9⟩, ⟨.closeBrace, 11⟩],
        .finished 11⟩ := by
    decide +kernel
  refine ⟨?_, htext, ?_⟩
  · rw [parse, hlex]
    rfl
  · intro hparse
    rw [htext, parse, hagain] at hparse
    cases hparse

end Projections
