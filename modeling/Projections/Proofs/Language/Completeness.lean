import Projections.Proofs.Language.Soundness

/-! What the grammar derives, the parser reads. The parser commits itself by what
comes next: to a function by its header, to a call by a parenthesis, to a negative
literal by a number. No commitment loses a derivation, as long as what follows an
expression does not continue it. -/

namespace Projections.Grammar

/-! ### Parsers of levels -/

/-- The parser of a level, built on the one of whole expressions. -/
def Level.over (inner : Parser Expr) : Level → Parser Expr
  | .expression => inner
  | .coalescing => Parser.coalescing inner
  | .disjunction => Parser.disjunction inner
  | .conjunction => Parser.conjunction inner
  | .comparison => Parser.comparison inner
  | .sum => Parser.sum inner
  | .product => Parser.product inner
  | .unary => Parser.unary inner
  | .suffixed => Parser.suffixed inner
  | .primary => Parser.primary inner

/-- The parser of a level for at most `depth` tokens. Below the level of expressions
whatever is enclosed has a token less. -/
def Level.read (depth : Nat) (level : Level) : Parser Expr :=
  if level = .expression then Parser.expression depth
  else level.over (Parser.expression (depth - 1))

theorem read_primary (depth : Nat) :
    Level.read depth .primary = Parser.primary (Parser.expression (depth - 1)) := rfl

theorem read_of_chained {level next : Level} (depth : Nat) (hn : level.next? = some next)
    (hc : level.chained ≠ []) :
    level.read depth = Parser.chain level.sign (next.read depth) := by
  cases level <;> cases hn <;> first | rfl | exact absurd rfl hc

/-! ### What may follow -/

/-- The rank of the level at which a token continues what stands before it; nothing is
continued by a token of strength zero. -/
def strength : Token → Nat
  | .coalesce => 1
  | .or => 2
  | .and => 3
  | .equal | .notEqual | .less | .greater | .lessEqual | .greaterEqual => 4
  | .plus | .minus => 5
  | .star | .slash | .percent => 6
  | .dot | .openBracket => 8
  | .openParen | .arrow => 9
  | _ => 0

/-- Tokens before which an expression of a level ends. -/
def Clear (level : Level) (rest : List Token) : Prop :=
  ∀ t ∈ rest.head?, strength t = 0 ∨ strength t < level.rank

theorem clear_nil (level : Level) : Clear level [] := by
  intro t ht
  cases ht

theorem clear_cons {level : Level} {t : Token} {rest : List Token} :
    Clear level (t :: rest) ↔ strength t = 0 ∨ strength t < level.rank := by
  simp [Clear]

theorem Clear.mono {level next : Level} {rest : List Token} (h : Clear level rest)
    (hr : level.rank ≤ next.rank) : Clear next rest := by
  intro t ht
  have := h t ht
  omega

theorem strength_of_mem_chained {level : Level} {t : Token} {op : BinaryOp}
    (h : (t, op) ∈ level.chained) : strength t = level.rank := by
  cases level <;> simp [Level.chained] at h <;> grind [strength, Level.rank]

theorem rank_of_mem_chained {level : Level} {t : Token} {op : BinaryOp}
    (h : (t, op) ∈ level.chained) : 1 ≤ level.rank ∧ level.rank ≤ 6 := by
  cases level <;> first | decide | cases h

theorem strength_of_mem_comparisons {t : Token} {op : BinaryOp} (h : (t, op) ∈ comparisons) :
    strength t = 4 := by
  simp only [comparisons, List.mem_cons, Prod.mk.injEq, List.not_mem_nil, or_false] at h
  grind [strength]

theorem sign_eq_none_of_clear {level : Level} {t : Token} {rest : List Token}
    (h : Clear level (t :: rest)) : level.sign t = none := by
  rw [clear_cons] at h
  cases hs : level.sign t with
  | none => rfl
  | some op =>
    have hm := mem_chained_iff.2 hs
    have := strength_of_mem_chained hm
    have := rank_of_mem_chained hm
    omega

theorem comparisonSign_eq_none_of_clear {t : Token} {rest : List Token}
    (h : Clear .comparison (t :: rest)) : Parser.comparisonSign t = none := by
  rw [clear_cons] at h
  cases hs : Parser.comparisonSign t with
  | none => rfl
  | some op =>
    have := strength_of_mem_comparisons (mem_comparisons_iff.2 hs)
    simp only [Level.rank] at h
    omega

/-! ### How derivations begin -/

/-- Tokens that begin a primary. -/
def Opening : Token → Prop
  | .float _ | .integer _ | .string _ | .boolean _ | .null | .identifier _ => True
  | .openParen | .openBrace | .openBracket => True
  | _ => False

/-- Tokens that begin an expression of a level. -/
def Begins (level : Level) (t : Token) : Prop :=
  Opening t ∨ level.rank ≤ 7 ∧ (t = .minus ∨ t = .bang)

/-- A closing token ends whatever it stands behind, and begins nothing. -/
def Closing (t : Token) : Prop := t = .closeParen ∨ t = .closeBracket ∨ t = .closeBrace

theorem Closing.not_begins {t : Token} (h : Closing t) (level : Level) : ¬ Begins level t := by
  rintro (ho | ⟨-, hm | hb⟩)
  · rcases h with rfl | rfl | rfl <;> exact ho
  · subst hm
    rcases h with h | h | h <;> cases h
  · subst hb
    rcases h with h | h | h <;> cases h

theorem begins_of_derives :
    ∀ {level : Level} {ts : List Token} {e : Expr}, Derives level ts e →
      ∃ t us, ts = t :: us ∧ Begins level t
  | _, _, _, .tighter hn h => by
    obtain ⟨t, us, rfl, ho | ⟨hr, hs⟩⟩ := begins_of_derives h
    · exact ⟨t, us, rfl, .inl ho⟩
    · have := Level.rank_next hn
      exact ⟨t, us, rfl, .inr ⟨by omega, hs⟩⟩
  | _, _, _, .chain _ _ hl _ => by
    obtain ⟨t, us, rfl, hb⟩ := begins_of_derives hl
    exact ⟨t, _, rfl, hb⟩
  | _, _, _, .comparison _ hl _ => by
    obtain ⟨t, us, rfl, hb⟩ := begins_of_derives hl
    exact ⟨t, _, rfl, hb.imp_right fun h => ⟨by decide, h.2⟩⟩
  | _, _, _, .member _ h | _, _, _, .call _ h _ | _, _, _, .index h _ => by
    obtain ⟨t, us, rfl, hb⟩ := begins_of_derives h
    exact ⟨t, _, rfl, hb⟩
  | _, _, _, .negativeInteger _ | _, _, _, .negativeFloat _ | _, _, _, .negation _ _ =>
    ⟨.minus, _, rfl, .inr ⟨by decide, .inl rfl⟩⟩
  | _, _, _, .not _ => ⟨.bang, _, rfl, .inr ⟨by decide, .inr rfl⟩⟩
  | _, _, _, .arrow _ _ | _, _, _, .header _ _ | _, _, _, .float _ | _, _, _, .integer _
  | _, _, _, .string _ | _, _, _, .boolean _ | _, _, _, .null | _, _, _, .name _
  | _, _, _, .group _ | _, _, _, .object _ | _, _, _, .array _ => ⟨_, _, rfl, .inl trivial⟩

theorem ne_nil_of_derives {level : Level} {ts : List Token} {e : Expr} (h : Derives level ts e) :
    ts ≠ [] := by
  obtain ⟨t, us, rfl, -⟩ := begins_of_derives h
  simp

/-- A name at the beginning, unless it stands alone, is continued by what comes next. -/
def NameGoesOn (ts : List Token) : Prop :=
  ∀ name t us, ts = .identifier name :: t :: us → strength t ≠ 0

theorem NameGoesOn.append {ts us : List Token} {t : Token} (h : NameGoesOn ts) (hts : ts ≠ [])
    (ht : strength t ≠ 0) : NameGoesOn (ts ++ t :: us) := by
  intro name u vs he
  match ts with
  | [] => exact absurd rfl hts
  | [_] =>
    cases he
    exact ht
  | _ :: _ :: ts =>
    cases he
    exact h name u ts rfl

theorem nameGoesOn_of_derives :
    ∀ {level : Level} {ts : List Token} {e : Expr}, Derives level ts e → NameGoesOn ts
  | _, _, _, .tighter _ h => nameGoesOn_of_derives h
  | _, _, _, .chain _ hs hl _ => by
    have := strength_of_mem_chained hs
    have := rank_of_mem_chained hs
    exact (nameGoesOn_of_derives hl).append (ne_nil_of_derives hl) (by omega)
  | _, _, _, .comparison hs hl _ => by
    have := strength_of_mem_comparisons hs
    exact (nameGoesOn_of_derives hl).append (ne_nil_of_derives hl) (by omega)
  | _, _, _, .member _ h | _, _, _, .call _ h _ | _, _, _, .index h _ =>
    (nameGoesOn_of_derives h).append (ne_nil_of_derives h) (by decide)
  | _, _, _, .arrow _ _ => fun _ _ _ he => by cases he; decide
  | _, _, _, .header _ _ | _, _, _, .negativeInteger _ | _, _, _, .negativeFloat _
  | _, _, _, .negation _ _ | _, _, _, .not _ | _, _, _, .float _ | _, _, _, .integer _
  | _, _, _, .string _ | _, _, _, .boolean _ | _, _, _, .null | _, _, _, .name _
  | _, _, _, .group _ | _, _, _, .object _ | _, _, _, .array _ => fun _ _ _ he => by cases he

/-! ### Functions are seen by their headers -/

/-- Between parentheses, an expression is no list of parameters unless it is one name. -/
theorem names?_of_derives {ts rest after : List Token} {e : Expr} {names : List String}
    (h : Derives .expression ts e)
    (hn : Parser.names? (ts ++ .closeParen :: rest) = some (names, after)) : after = rest := by
  have hg := nameGoesOn_of_derives h
  obtain ⟨t, us, rfl, hb⟩ := begins_of_derives h
  cases t with
  | identifier name =>
    cases us with
    | nil =>
      cases hn
      rfl
    | cons u us =>
      have := hg name u us rfl
      cases u <;> first | exact absurd rfl this | cases hn
  | closeParen => exact absurd hb (Closing.not_begins (.inl rfl) _)
  | _ => cases hn

theorem header?_group {ts rest : List Token} {e : Expr} (h : Derives .expression ts e)
    (hr : rest.head? ≠ some .arrow) :
    Parser.header? (.openParen :: (ts ++ .closeParen :: rest)) = none := by
  simp only [Parser.header?]
  split
  · next names after hs =>
    obtain rfl := names?_of_derives h hs
    exact absurd rfl hr
  · rfl

theorem header?_eq_none :
    ∀ {level : Level} {ts : List Token} {e : Expr} (rest : List Token), Derives level ts e →
      level ≠ .expression → rest.head? ≠ some .arrow → Parser.header? (ts ++ rest) = none
  | _, _, _, rest, .tighter hn h, _, hr => header?_eq_none rest h (Level.next_ne_expression hn) hr
  | _, _, _, rest, .chain _ hs hl _, hne, _ => by
    have := strength_of_mem_chained hs
    have := rank_of_mem_chained hs
    rw [List.append_assoc]
    refine header?_eq_none _ hl hne fun he => ?_
    cases he
    simp only [strength] at *
    omega
  | _, _, _, rest, .comparison hs hl _, _, _ => by
    have := strength_of_mem_comparisons hs
    rw [List.append_assoc]
    refine header?_eq_none _ hl (by decide) fun he => ?_
    cases he
    cases this
  | _, _, _, rest, .member _ h, hne, _ | _, _, _, rest, .call _ h _, hne, _
  | _, _, _, rest, .index h _, hne, _ => by
    rw [List.append_assoc]
    exact header?_eq_none _ h hne (by simp)
  | _, _, _, rest, .group h, _, hr => by
    simpa using header?_group h hr
  | _, _, _, rest, .name _, _, hr => by
    cases rest <;> simp_all [Parser.header?]
  | _, _, _, _, .negativeInteger _, _, _ | _, _, _, _, .negativeFloat _, _, _
  | _, _, _, _, .negation _ _, _, _ | _, _, _, _, .not _, _, _ | _, _, _, _, .float _, _, _
  | _, _, _, _, .integer _, _, _ | _, _, _, _, .string _, _, _ | _, _, _, _, .boolean _, _, _
  | _, _, _, _, .null, _, _ | _, _, _, _, .object _, _, _ | _, _, _, _, .array _, _, _ => rfl

/-! ### Lists -/

section Lists

variable {α : Type} {item : Parser α} {close : Token} {separator : String}

theorem items_nil (turns : Nat) (rest : List Token) :
    Parser.items item close separator (turns + 1) (close :: rest) = .ok ([], rest) := by
  simp [Parser.items]

theorem items_last {ts rest : List Token} {x : α} (turns : Nat) (hs : ts.head? ≠ some close)
    (hi : item ts = .ok (x, close :: rest)) :
    Parser.items item close separator (turns + 1) ts = .ok ([x], rest) := by
  simp [Parser.items, hs, hi]

theorem items_cons {ts us rest : List Token} {x : α} {xs : List α} (turns : Nat)
    (hs : ts.head? ≠ some close) (hc : close ≠ .comma) (hi : item ts = .ok (x, .comma :: us))
    (hx : Parser.items item close separator turns us = .ok (xs, rest)) :
    Parser.items item close separator (turns + 1) ts = .ok (x :: xs, rest) := by
  simp [Parser.items, Parser.expect, hs, hi, hx, Ne.symm hc]

end Lists

theorem names?_of_names {ns : List Token} {names : List String} (rest : List Token)
    (h : Names ns names) : Parser.names? (ns ++ .closeParen :: rest) = some (names, rest) := by
  induction h with
  | nil => rfl
  | last name => rfl
  | cons name _ ih => simp [Parser.names?, ih]

/-! ### Levels -/

/-- The level whose continuations an expression is read past: where a level goes on by
itself, that is the next one. -/
def Level.guard : Level → Level
  | .coalescing => .disjunction
  | .disjunction => .conjunction
  | .conjunction => .comparison
  | .sum => .product
  | .product => .unary
  | .suffixed => .primary
  | level => level

/-- How a level goes on after a first expression. -/
def Level.proceed (depth turns : Nat) (level : Level) (e : Expr) : Parser Expr :=
  if level = .suffixed then Parser.suffixes (Parser.expression (depth - 1)) turns e
  else Parser.extend level.sign (level.guard.read depth) turns e

/-- Followed by tokens that do not continue it at a tighter level, an expression is read as
a beginning of whatever its level makes of the rest. -/
def Reads (level : Level) (ts : List Token) (e : Expr) : Prop :=
  ∀ depth rest, ts.length ≤ depth → Clear level.guard rest →
    ∃ turns, rest.length ≤ turns ∧
      level.read depth (ts ++ rest) = level.proceed depth turns e rest

theorem rank_le_guard (level : Level) : level.rank ≤ level.guard.rank := by
  cases level <;> decide

theorem proceed_of_clear {level : Level} {rest : List Token} (depth turns : Nat) (e : Expr)
    (h : Clear level rest) : level.proceed depth turns e rest = .ok (e, rest) := by
  unfold Level.proceed
  split
  · next hl =>
    subst hl
    cases rest with
    | nil => cases turns <;> rfl
    | cons t rest =>
      rw [clear_cons] at h
      cases turns <;> cases t <;> first | rfl | simp [strength, Level.rank] at h
  · cases rest with
    | nil => cases turns <;> rfl
    | cons t rest =>
      cases turns with
      | zero => rfl
      | succ turns => simp only [Parser.extend, sign_eq_none_of_clear h]

/-- Followed by tokens that do not continue it, an expression is read as a whole. -/
theorem Reads.whole {level : Level} {ts : List Token} {e : Expr} (h : Reads level ts e)
    (depth : Nat) (rest : List Token) (hd : ts.length ≤ depth) (hr : Clear level rest) :
    level.read depth (ts ++ rest) = .ok (e, rest) := by
  obtain ⟨turns, -, ht⟩ := h depth rest hd (hr.mono (rank_le_guard level))
  rw [ht, proceed_of_clear depth turns e hr]

/-- A level that does not go on by itself reads what it reads as a whole. -/
theorem Reads.of_whole {level : Level} {ts : List Token} {e : Expr} (hg : level.guard = level)
    (h : ∀ depth rest, ts.length ≤ depth → Clear level rest →
      level.read depth (ts ++ rest) = .ok (e, rest)) : Reads level ts e := by
  intro depth rest hd hr
  rw [hg] at hr
  exact ⟨rest.length, Nat.le_refl _, by rw [h depth rest hd hr, proceed_of_clear depth _ e hr]⟩

/-! ### Next tighter levels -/

theorem exists_succ_of_derives {level : Level} {ts : List Token} {e : Expr} {depth : Nat}
    (h : Derives level ts e) (hl : ts.length ≤ depth) : ∃ n, depth = n + 1 := by
  obtain ⟨t, us, rfl, -⟩ := begins_of_derives h
  exact Nat.exists_eq_add_of_le' (Nat.le_trans (by simp) hl)

theorem reads_expression {ts : List Token} {e : Expr} (hd : Derives .coalescing ts e)
    (h : Reads .coalescing ts e) : Reads .expression ts e := by
  refine .of_whole rfl fun depth rest hl hr => ?_
  obtain ⟨depth, rfl⟩ := exists_succ_of_derives hd hl
  have hw := h.whole (depth + 1) rest hl (hr.mono (by decide))
  have harrow : rest.head? ≠ some .arrow := fun ha => by
    have := hr _ ha
    simp [strength, Level.rank] at this
  have hh := header?_eq_none rest hd (by decide) harrow
  change Parser.expression (depth + 1) (ts ++ rest) = _
  simp only [Parser.expression, hh]
  exact hw

theorem reads_chain_first {level next : Level} {ts : List Token} {e : Expr}
    (hn : level.next? = some next) (hg : level.guard = next) (hc : level.chained ≠ [])
    (h : Reads next ts e) : Reads level ts e := by
  intro depth rest hl hr
  rw [hg] at hr
  refine ⟨rest.length, Nat.le_refl _, ?_⟩
  have hs : level ≠ .suffixed := by rintro rfl; exact hc rfl
  rw [read_of_chained depth hn hc, Parser.chain, h.whole depth rest hl hr, Level.proceed,
    if_neg hs, hg]
  rfl

theorem reads_comparison {ts : List Token} {e : Expr} (h : Reads .sum ts e) :
    Reads .comparison ts e := by
  refine .of_whole rfl fun depth rest hl hr => ?_
  have hw := h.whole depth rest hl (hr.mono (by decide))
  change Parser.once Parser.comparisonSign (Level.sum.read depth) (ts ++ rest) = _
  rw [Parser.once, hw]
  cases rest with
  | nil => rfl
  | cons t rest => simp [comparisonSign_eq_none_of_clear hr]

theorem reads_unary {ts : List Token} {e : Expr} (hd : Derives .suffixed ts e)
    (h : Reads .suffixed ts e) : Reads .unary ts e := by
  refine .of_whole rfl fun depth rest hl hr => ?_
  rw [← h.whole depth rest hl (hr.mono (by decide))]
  obtain ⟨t, us, rfl, ho | ⟨hrank, -⟩⟩ := begins_of_derives hd
  · change Parser.unary _ (t :: (us ++ rest)) = Parser.suffixed _ (t :: (us ++ rest))
    cases t <;> first | rfl | cases ho
  · exact absurd hrank (by decide)

theorem reads_suffixed {ts : List Token} {e : Expr} (h : Reads .primary ts e) :
    Reads .suffixed ts e := by
  intro depth rest hl hr
  refine ⟨rest.length, Nat.le_refl _, ?_⟩
  have hw := h.whole depth rest hl hr
  change Parser.suffixed _ (ts ++ rest) = Parser.suffixes _ rest.length e rest
  change Parser.primary _ (ts ++ rest) = _ at hw
  rw [Parser.suffixed, hw]
  rfl

/-- An expression of the next tighter level is read at a level too. -/
theorem reads_of_next {level next : Level} {ts : List Token} {e : Expr}
    (hn : level.next? = some next) (hd : Derives next ts e) (h : Reads next ts e) :
    Reads level ts e := by
  cases level with
  | expression => cases hn; exact reads_expression hd h
  | comparison => cases hn; exact reads_comparison h
  | unary => cases hn; exact reads_unary hd h
  | suffixed => cases hn; exact reads_suffixed h
  | primary => cases hn
  | coalescing | disjunction | conjunction | sum | product =>
    cases hn
    exact reads_chain_first rfl rfl (by simp [Level.chained]) h

/-! ### Forms -/

theorem reads_chain {level next : Level} {sign : Token} {op : BinaryOp} {ls rs : List Token}
    {left right : Expr} (hn : level.next? = some next) (hs : (sign, op) ∈ level.chained)
    (hl : Reads level ls left) (hr : Reads next rs right) :
    Reads level (ls ++ sign :: rs) (.binary op left right) := by
  intro depth rest hlen hrest
  simp only [List.length_append, List.length_cons] at hlen
  have hg : level.guard = next := by cases level <;> cases hn <;> first | rfl | cases hs
  have hne : level ≠ .suffixed := by rintro rfl; cases hs
  have hrank := Level.rank_next hn
  have hstrength := strength_of_mem_chained hs
  rw [hg] at hrest
  obtain ⟨turns, ht, hread⟩ := hl depth (sign :: (rs ++ rest)) (by omega)
    (by rw [clear_cons, hg]; omega)
  obtain ⟨turns, rfl⟩ : ∃ n, turns = n + 1 :=
    Nat.exists_eq_add_of_le' (Nat.le_trans (by simp) ht)
  simp only [List.length_cons, List.length_append] at ht
  refine ⟨turns, by omega, ?_⟩
  have hw := hr.whole depth rest (by omega) hrest
  rw [List.append_assoc, List.cons_append, hread]
  simp only [Level.proceed, if_neg hne, Parser.extend, mem_chained_iff.1 hs, hg, hw]
  rfl

theorem reads_joined {sign : Token} {op : BinaryOp} {ls rs : List Token} {left right : Expr}
    (hs : (sign, op) ∈ comparisons) (hl : Reads .sum ls left) (hr : Reads .sum rs right) :
    Reads .comparison (ls ++ sign :: rs) (.binary op left right) := by
  refine .of_whole rfl fun depth rest hlen hrest => ?_
  simp only [List.length_append, List.length_cons] at hlen
  have hstrength := strength_of_mem_comparisons hs
  have hwl := hl.whole depth (sign :: (rs ++ rest)) (by omega)
    (by rw [clear_cons, hstrength]; decide)
  have hwr := hr.whole depth rest (by omega) (hrest.mono (by decide))
  change Parser.once Parser.comparisonSign (Level.sum.read depth) _ = _
  rw [List.append_assoc, List.cons_append, Parser.once, hwl]
  simp [mem_comparisons_iff.1 hs, hwr]

theorem reads_negation {ts : List Token} {operand : Expr} (hd : Derives .unary ts operand)
    (hn : ∀ t ∈ ts.head?, ¬ Numeric t) (h : Reads .unary ts operand) :
    Reads .unary (.minus :: ts) (.binary .subtract (.integer 0) operand) := by
  refine .of_whole rfl fun depth rest hl hr => ?_
  simp only [List.length_cons] at hl
  have hw := h.whole depth rest (by omega) hr
  obtain ⟨t, us, rfl, -⟩ := begins_of_derives hd
  have ht : ¬ Numeric t := hn t rfl
  change Parser.unary _ (t :: (us ++ rest)) = _ at hw
  change Parser.unary _ (.minus :: t :: (us ++ rest)) = _
  rw [Parser.unary, hw]
  · rfl
  · rintro n after he
    cases he
    exact ht (.inl ⟨n, rfl⟩)
  · rintro x after he
    cases he
    exact ht (.inr ⟨x, rfl⟩)

theorem reads_not {ts : List Token} {operand : Expr} (h : Reads .unary ts operand) :
    Reads .unary (.bang :: ts) (.not operand) := by
  refine .of_whole rfl fun depth rest hl hr => ?_
  simp only [List.length_cons] at hl
  have hw := h.whole depth rest (by omega) hr
  change Parser.unary _ (ts ++ rest) = _ at hw
  change Parser.unary _ (.bang :: (ts ++ rest)) = _
  rw [Parser.unary, hw]
  rfl

/-- One suffix more is one turn more. -/
theorem reads_suffix {ts us : List Token} {base e : Expr} {t : Token}
    (ht : strength t = 8) (h : Reads .suffixed ts base)
    (hs : ∀ depth turns rest, (ts ++ t :: us).length ≤ depth → Clear .primary rest →
      Parser.suffixes (Parser.expression (depth - 1)) (turns + 1) base (t :: (us ++ rest)) =
        Parser.suffixes (Parser.expression (depth - 1)) turns e rest) :
    Reads .suffixed (ts ++ t :: us) e := by
  intro depth rest hl hr
  have hlen : ts.length ≤ depth := Nat.le_trans (by simp) hl
  obtain ⟨turns, hturns, hread⟩ := h depth (t :: (us ++ rest)) hlen
    (by rw [clear_cons, ht]; exact .inr (by decide))
  obtain ⟨turns, rfl⟩ : ∃ n, turns = n + 1 :=
    Nat.exists_eq_add_of_le' (Nat.le_trans (by simp) hturns)
  simp only [List.length_cons, List.length_append] at hturns
  refine ⟨turns, by omega, ?_⟩
  rw [List.append_assoc, List.cons_append, hread]
  exact hs depth turns rest hl hr

theorem suffixes_member (inner : Parser Expr) (turns : Nat) (base : Expr) (field : String)
    {rest : List Token} (hr : Clear .primary rest) :
    Parser.suffixes inner (turns + 1) base (.dot :: .identifier field :: rest) =
      Parser.suffixes inner turns (.member base field) rest := by
  rw [Parser.suffixes]
  rintro after rfl
  rw [clear_cons] at hr
  revert hr
  decide

theorem reads_lambda {ts us : List Token} {names : List String} {body : Expr}
    (hh : ∀ rest, Parser.header? (us ++ rest) = some (names, ts ++ rest))
    (hlen : ts.length < us.length) (h : Reads .expression ts body) :
    Reads .expression us (.lambda names body) := by
  refine .of_whole rfl fun depth rest hl hr => ?_
  obtain ⟨depth, rfl⟩ : ∃ n, depth = n + 1 := Nat.exists_eq_add_of_le' (by omega)
  have hw := h.whole depth rest (by omega) hr
  change Parser.expression depth (ts ++ rest) = _ at hw
  change Parser.expression (depth + 1) (us ++ rest) = _
  simp only [Parser.expression, hh, hw]
  rfl

/-! ### Derivations -/

theorem Closing.clear {t : Token} (h : Closing t) (level : Level) (rest : List Token) :
    Clear level (t :: rest) := by
  rw [clear_cons]
  rcases h with rfl | rfl | rfl <;> exact .inl rfl

theorem Closing.ne_comma {t : Token} (h : Closing t) : t ≠ .comma := by
  rcases h with rfl | rfl | rfl <;> simp

theorem Closing.head?_ne {t : Token} (h : Closing t) {ts : List Token} {e : Expr}
    (hd : Derives .expression ts e) (rest : List Token) : (ts ++ rest).head? ≠ some t := by
  obtain ⟨u, us, rfl, hu⟩ := begins_of_derives hd
  rintro he
  cases he
  exact h.not_begins _ hu

/-- A list read in enough turns is read after its opening token. -/
theorem listOf_eq {α : Type} {item : Parser α} {close : Token} {separator : String}
    {ts rest : List Token} {xs : List α}
    (h : ∀ turns, ts.length < turns →
      Parser.items item close separator turns (ts ++ close :: rest) = .ok (xs, rest)) :
    Parser.listOf item close separator (ts ++ close :: rest) = .ok (xs, rest) :=
  h _ (by simp only [List.length_append]; omega)

theorem entry_eq {t : Token} {key : String} {ts rest : List Token} {e : Expr} {depth : Nat}
    (hk : IsKey t key) (h : Reads .expression ts e) (hl : ts.length ≤ depth)
    (hr : Clear .expression rest) :
    Parser.entry (Parser.expression depth) (t :: .colon :: (ts ++ rest)) =
      .ok ((key, e), rest) := by
  have hw := h.whole depth rest hl hr
  change Parser.expression depth (ts ++ rest) = _ at hw
  rcases hk with rfl | rfl <;> simp [Parser.entry, Parser.expect, hw]

mutual

theorem reads_of_derives :
    ∀ {level : Level} {ts : List Token} {e : Expr}, Derives level ts e → Reads level ts e
  | _, _, _, .tighter hn h => reads_of_next hn h (reads_of_derives h)
  | _, _, _, .arrow _ h => by
    refine reads_lambda (fun _ => rfl) ?_ (reads_of_derives h)
    simp only [List.length_cons]
    omega
  | _, _, _, .header hns h => by
    refine reads_lambda (fun rest => ?_) (by simp; omega) (reads_of_derives h)
    simp [Parser.header?, names?_of_names _ hns]
  | _, _, _, .chain hn hs hl hr => reads_chain hn hs (reads_of_derives hl) (reads_of_derives hr)
  | _, _, _, .comparison hs hl hr => reads_joined hs (reads_of_derives hl) (reads_of_derives hr)
  | _, _, _, .negativeInteger _ | _, _, _, .negativeFloat _ => .of_whole rfl fun _ _ _ _ => rfl
  | _, _, _, .negation hn h => reads_negation h hn (reads_of_derives h)
  | _, _, _, .not h => reads_not (reads_of_derives h)
  | _, _, _, .member field h =>
    reads_suffix rfl (reads_of_derives h) fun _ turns _ _ hr => suffixes_member _ turns _ field hr
  | _, _, _, .call method h ha => by
    refine reads_suffix rfl (reads_of_derives h) fun depth turns rest hl _ => ?_
    simp only [List.length_append, List.length_cons] at hl
    have hi := listOf_eq fun turns ht =>
      reads_items ha .closeParen "',' between arguments" (depth - 1) turns rest (.inl rfl)
        (by omega) ht
    simp [Parser.suffixes, hi]
  | _, _, _, .index h hp => by
    refine reads_suffix rfl (reads_of_derives h) fun depth turns rest hl _ => ?_
    simp only [List.length_append, List.length_cons] at hl
    have hw := (reads_of_derives hp).whole (depth - 1) (.closeBracket :: rest) (by omega)
      (Closing.clear (.inr (.inl rfl)) _ _)
    change Parser.expression (depth - 1) _ = _ at hw
    simp [Parser.suffixes, Parser.expect, hw]
  | _, _, _, .float _ | _, _, _, .integer _ | _, _, _, .string _ | _, _, _, .boolean _
  | _, _, _, .null | _, _, _, .name _ => .of_whole rfl fun _ _ _ _ => rfl
  | _, _, _, .group h => by
    refine .of_whole rfl fun depth rest hl _ => ?_
    simp only [List.length_append, List.length_cons] at hl
    have hw := (reads_of_derives h).whole (depth - 1) (.closeParen :: rest) (by omega)
      (Closing.clear (.inl rfl) _ _)
    change Parser.expression (depth - 1) _ = _ at hw
    simp [read_primary, Parser.primary, Parser.expect, hw]
  | _, _, _, .object h => by
    refine .of_whole rfl fun depth rest hl _ => ?_
    simp only [List.length_append, List.length_cons] at hl
    have hi := listOf_eq fun turns ht =>
      reads_entries h "',' between object entries" (depth - 1) turns rest (by omega) ht
    simp [read_primary, Parser.primary, hi]
  | _, _, _, .array h => by
    refine .of_whole rfl fun depth rest hl _ => ?_
    simp only [List.length_append, List.length_cons] at hl
    have hi := listOf_eq fun turns ht =>
      reads_items h .closeBracket "',' between array elements" (depth - 1) turns rest
        (.inr (.inl rfl)) (by omega) ht
    simp [read_primary, Parser.primary, hi]

theorem reads_items : ∀ {ts : List Token} {es : List Expr}, Items ts es →
    ∀ (close : Token) (separator : String) (depth turns : Nat) (rest : List Token), Closing close →
      ts.length ≤ depth → ts.length < turns →
        Parser.items (Parser.expression depth) close separator turns (ts ++ close :: rest) =
          .ok (es, rest)
  | _, _, .nil, close, separator, depth, turns + 1, rest, _, _, _ => items_nil turns rest
  | _, _, .last h, close, separator, depth, turns + 1, rest, hc, hl, _ =>
    items_last turns (hc.head?_ne h _)
      ((reads_of_derives h).whole depth (close :: rest) hl (hc.clear _ _))
  | _, _, .cons h hs, close, separator, depth, turns + 1, rest, hc, hl, ht => by
    simp only [List.length_append, List.length_cons] at hl ht
    rw [List.append_assoc]
    exact items_cons turns (hc.head?_ne h _) hc.ne_comma
      ((reads_of_derives h).whole depth _ (by omega) (clear_cons.2 (.inl rfl)))
      (reads_items hs close separator depth turns rest hc (by omega) (by omega))

theorem reads_entries : ∀ {ts : List Token} {es : List (String × Expr)}, Entries ts es →
    ∀ (separator : String) (depth turns : Nat) (rest : List Token),
      ts.length ≤ depth → ts.length < turns →
        Parser.items (Parser.entry (Parser.expression depth)) .closeBrace separator turns
          (ts ++ .closeBrace :: rest) = .ok (es, rest)
  | _, _, .nil, separator, depth, turns + 1, rest, _, _ => items_nil turns rest
  | _, _, .last hk h, separator, depth, turns + 1, rest, hl, _ => by
    simp only [List.length_cons] at hl
    refine items_last turns ?_ (entry_eq hk (reads_of_derives h) (by omega) ?_)
    · rcases hk with rfl | rfl <;> simp
    · exact Closing.clear (.inr (.inr rfl)) _ _
  | _, _, .cons hk h hs, separator, depth, turns + 1, rest, hl, ht => by
    simp only [List.length_append, List.length_cons] at hl ht
    simp only [List.cons_append, List.append_assoc]
    refine items_cons turns ?_ (by simp)
      (entry_eq hk (reads_of_derives h) (by omega) (clear_cons.2 (.inl rfl)))
      (reads_entries hs separator depth turns rest (by omega) (by omega))
    rcases hk with rfl | rfl <;> simp

end

/-- Tokens that derive an expression are read as that expression. -/
theorem expression_eq_of_derives {ts : List Token} {e : Expr} (h : Derives .expression ts e) :
    Parser.expression ts.length ts = .ok (e, []) := by
  have hw := (reads_of_derives h).whole ts.length [] (Nat.le_refl _) (clear_nil _)
  rwa [List.append_nil] at hw

end Projections.Grammar
