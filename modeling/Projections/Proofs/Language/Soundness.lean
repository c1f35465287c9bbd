import Projections.Language.Parser
import Projections.Proofs.Language.Grammar
import Projections.Proofs.Result

/-! What the parser reads, the grammar derives. Every parser of a level gives the
tree of the tokens it takes off the front; this is proved level by level from the
same statement about whole expressions, and for those by their depth. -/

namespace Projections.Grammar

open Result (bind_eq_ok_iff)

/-! ### Operators -/

/-- The operators of a chain, as the parser looks them up. -/
def Level.sign : Level → Token → Option BinaryOp
  | .coalescing => Parser.coalesceSign
  | .disjunction => Parser.orSign
  | .conjunction => Parser.andSign
  | .sum => Parser.sumSign
  | .product => Parser.productSign
  | _ => fun _ => none

theorem mem_chained_iff {level : Level} {t : Token} {op : BinaryOp} :
    (t, op) ∈ level.chained ↔ level.sign t = some op := by
  cases level <;> cases t <;>
    simp [Level.chained, Level.sign, Parser.coalesceSign, Parser.orSign, Parser.andSign,
      Parser.sumSign, Parser.productSign, eq_comm]

theorem mem_comparisons_iff {t : Token} {op : BinaryOp} :
    (t, op) ∈ comparisons ↔ Parser.comparisonSign t = some op := by
  cases t <;> simp [comparisons, Parser.comparisonSign, eq_comm]

/-! ### What sound reading is -/

/-- Whatever a parser gives stands for the tokens it took off the front. -/
def Sound {α : Type} (p : Parser α) (D : List Token → α → Prop) : Prop :=
  ∀ ⦃ts x rest⦄, p ts = .ok (x, rest) → ∃ front, ts = front ++ rest ∧ D front x

theorem Sound.mono {α : Type} {p : Parser α} {D E : List Token → α → Prop} (h : Sound p D)
    (hDE : ∀ ⦃ts x⦄, D ts x → E ts x) : Sound p E := by
  intro ts x rest hp
  obtain ⟨front, rfl, hd⟩ := h hp
  exact ⟨front, rfl, hDE hd⟩

theorem eq_cons_of_expect {t : Token} {description : String} {ts rest : List Token}
    (h : Parser.expect t description ts = .ok rest) : ts = t :: rest := by
  cases ts with
  | nil => cases h
  | cons found after =>
    simp only [Parser.expect] at h
    split at h
    · next he => cases h; rw [he]
    · cases h

/-! ### Lists -/

section Lists

variable {α : Type} {item : Parser α} {D : List Token → α → Prop}
  {L : List Token → List α → Prop}

/-- A list is read as its items are, if what stands for lists is closed under the rules of
a list. -/
theorem sound_items (hi : Sound item D) (hnil : L [] [])
    (hlast : ∀ ⦃ts x⦄, D ts x → L ts [x])
    (hcons : ∀ ⦃ts us x xs⦄, D ts x → L us xs → L (ts ++ .comma :: us) (x :: xs))
    (close : Token) (separator : String) (turns : Nat) :
    Sound (Parser.items item close separator turns)
      fun ts xs => ∃ us, ts = us ++ [close] ∧ L us xs := by
  induction turns with
  | zero => intro ts xs rest h; cases h
  | succ turns ih =>
    intro ts xs rest h
    rw [Parser.items] at h
    split at h
    · next hc =>
      obtain ⟨after, rfl⟩ := List.head?_eq_some_iff.1 hc
      cases h
      exact ⟨[close], rfl, [], rfl, hnil⟩
    · simp only [bind_eq_ok_iff, Prod.exists] at h
      obtain ⟨x, after, hx, h⟩ := h
      obtain ⟨front, rfl, hd⟩ := hi hx
      split at h
      · next hc =>
        obtain ⟨after, rfl⟩ := List.head?_eq_some_iff.1 hc
        cases h
        exact ⟨front ++ [close], by simp, front, rfl, hlast hd⟩
      · simp only [bind_eq_ok_iff, Prod.exists] at h
        obtain ⟨after', he, ys, rest', hys, h⟩ := h
        obtain rfl := eq_cons_of_expect he
        obtain ⟨_, rfl, us, rfl, hl⟩ := ih hys
        cases h
        exact ⟨front ++ .comma :: (us ++ [close]), by simp, front ++ .comma :: us, by simp,
          hcons hd hl⟩

end Lists

/-! ### Parameters of functions -/

theorem names_sound {ts rest : List Token} {names : List String}
    (h : Parser.names? ts = some (names, rest)) :
    ∃ ns, ts = ns ++ .closeParen :: rest ∧ Names ns names := by
  fun_induction Parser.names? ts generalizing names rest with
  | case1 after =>
    cases h
    exact ⟨[], rfl, .nil⟩
  | case2 name after =>
    cases h
    exact ⟨[.identifier name], rfl, .last name⟩
  | case3 name after ih =>
    obtain ⟨⟨names', rest'⟩, hn, he⟩ := Option.map_eq_some_iff.1 h
    obtain ⟨ns, rfl, hns⟩ := ih hn
    cases he
    exact ⟨.identifier name :: .comma :: ns, rfl, .cons name hns⟩
  | case4 => cases h

theorem header_sound {ts rest : List Token} {names : List String}
    (h : Parser.header? ts = some (names, rest)) :
    (∃ name, names = [name] ∧ ts = .identifier name :: .arrow :: rest) ∨
      ∃ ns, Names ns names ∧ ts = .openParen :: (ns ++ .closeParen :: .arrow :: rest) := by
  unfold Parser.header? at h
  split at h
  · cases h
    exact .inl ⟨_, rfl, rfl⟩
  · split at h
    · next hn =>
      cases h
      obtain ⟨ns, rfl, hns⟩ := names_sound hn
      exact .inr ⟨ns, hns, rfl⟩
    · cases h
  · cases h

/-! ### Levels, tightest first -/

section Levels

variable {inner : Parser Expr}

theorem sound_entry (hi : Sound inner (Derives .expression)) :
    Sound (Parser.entry inner) fun ts entry =>
      ∃ t us, ts = t :: .colon :: us ∧ IsKey t entry.1 ∧ Derives .expression us entry.2 := by
  intro ts entry rest h
  unfold Parser.entry at h
  split at h
  case h_3 => cases h
  all_goals
    simp only [bind_eq_ok_iff, Prod.exists] at h
    obtain ⟨after, he, value, rest', hv, h⟩ := h
    obtain rfl := eq_cons_of_expect he
    obtain ⟨us, rfl, hd⟩ := hi hv
    cases h
  · exact ⟨_ :: .colon :: us, rfl, _, us, rfl, .inl rfl, hd⟩
  · exact ⟨_ :: .colon :: us, rfl, _, us, rfl, .inr rfl, hd⟩

theorem sound_listOf_expressions (hi : Sound inner (Derives .expression)) (close : Token)
    (separator : String) :
    Sound (Parser.listOf inner close separator)
      fun ts xs => ∃ us, ts = us ++ [close] ∧ Items us xs :=
  fun _ _ _ h => sound_items hi .nil (fun _ _ => .last) (fun _ _ _ _ => .cons) close separator _ h

theorem sound_listOf_entries (hi : Sound inner (Derives .expression)) (close : Token)
    (separator : String) :
    Sound (Parser.listOf (Parser.entry inner) close separator)
      fun ts xs => ∃ us, ts = us ++ [close] ∧ Entries us xs := by
  intro ts xs rest h
  refine sound_items (sound_entry hi) .nil ?_ ?_ close separator _ h
  · rintro _ ⟨key, e⟩ ⟨t, us, rfl, hk, hd⟩
    exact .last hk hd
  · rintro _ vs ⟨key, e⟩ es ⟨t, us, rfl, hk, hd⟩ hes
    exact .cons hk hd hes

theorem sound_primary (hi : Sound inner (Derives .expression)) :
    Sound (Parser.primary inner) (Derives .primary) := by
  intro ts e rest h
  unfold Parser.primary at h
  split at h
  case h_7 =>
    simp only [bind_eq_ok_iff, Prod.exists] at h
    obtain ⟨e', after, he, after', hc, h⟩ := h
    obtain ⟨us, rfl, hd⟩ := hi he
    obtain rfl := eq_cons_of_expect hc
    cases h
    exact ⟨.openParen :: (us ++ [.closeParen]), by simp, .group hd⟩
  case h_8 =>
    simp only [bind_eq_ok_iff, Prod.exists] at h
    obtain ⟨entries, after, he, h⟩ := h
    obtain ⟨_, rfl, us, rfl, hd⟩ := sound_listOf_entries hi _ _ he
    cases h
    exact ⟨.openBrace :: (us ++ [.closeBrace]), by simp, .object hd⟩
  case h_9 =>
    simp only [bind_eq_ok_iff, Prod.exists] at h
    obtain ⟨items, after, he, h⟩ := h
    obtain ⟨_, rfl, us, rfl, hd⟩ := sound_listOf_expressions hi _ _ he
    cases h
    exact ⟨.openBracket :: (us ++ [.closeBracket]), by simp, .array hd⟩
  case h_10 => cases h
  case h_1 x after =>
    cases h
    exact ⟨[.float x], rfl, .float x⟩
  case h_2 n after =>
    cases h
    exact ⟨[.integer n], rfl, .integer n⟩
  case h_3 s after =>
    cases h
    exact ⟨[.string s], rfl, .string s⟩
  case h_4 b after =>
    cases h
    exact ⟨[.boolean b], rfl, .boolean b⟩
  case h_5 after =>
    cases h
    exact ⟨[.null], rfl, .null⟩
  case h_6 n after =>
    cases h
    exact ⟨[.identifier n], rfl, .name n⟩

/-- Suffixes continue what was read before them. -/
theorem suffixes_sound (hi : Sound inner (Derives .expression)) {front ts rest : List Token}
    {base e : Expr} (turns : Nat) (hb : Derives .suffixed front base)
    (h : Parser.suffixes inner turns base ts = .ok (e, rest)) :
    ∃ us, ts = us ++ rest ∧ Derives .suffixed (front ++ us) e := by
  induction turns generalizing front ts base with
  | zero =>
    cases h
    exact ⟨[], rfl, by rwa [List.append_nil]⟩
  | succ turns ih =>
    unfold Parser.suffixes at h
    split at h
    · cases ‹turns + 1 = 0›
    · next heq =>
      cases heq
      split at h
      · next method after =>
        simp only [bind_eq_ok_iff, Prod.exists] at h
        obtain ⟨arguments, after, ha, h⟩ := h
        obtain ⟨_, rfl, us, rfl, hl⟩ := sound_listOf_expressions hi _ _ ha
        obtain ⟨vs, rfl, hd⟩ := ih (.call method hb hl) h
        exact ⟨.dot :: .identifier method :: .openParen :: (us ++ .closeParen :: vs), by simp,
          by simpa using hd⟩
      · next field after _ =>
        obtain ⟨vs, rfl, hd⟩ := ih (.member field hb) h
        exact ⟨.dot :: .identifier field :: vs, by simp, by simpa using hd⟩
      · cases h
    · next heq =>
      cases heq
      simp only [bind_eq_ok_iff, Prod.exists] at h
      obtain ⟨position, after, hp, after', hc, h⟩ := h
      obtain ⟨us, rfl, hd⟩ := hi hp
      obtain rfl := eq_cons_of_expect hc
      obtain ⟨vs, rfl, hd⟩ := ih (.index hb hd) h
      exact ⟨.openBracket :: (us ++ .closeBracket :: vs), by simp, by simpa using hd⟩
    · cases h
      exact ⟨[], rfl, by rwa [List.append_nil]⟩

theorem sound_suffixed (hi : Sound inner (Derives .expression)) :
    Sound (Parser.suffixed inner) (Derives .suffixed) := by
  intro ts e rest h
  simp only [Parser.suffixed, bind_eq_ok_iff, Prod.exists] at h
  obtain ⟨base, after, hb, h⟩ := h
  obtain ⟨front, rfl, hd⟩ := sound_primary hi hb
  obtain ⟨us, rfl, hs⟩ := suffixes_sound hi _ (.tighter rfl hd) h
  exact ⟨front ++ us, by simp, hs⟩

theorem sound_unary (hi : Sound inner (Derives .expression)) :
    Sound (Parser.unary inner) (Derives .unary) := by
  intro ts e rest h
  fun_induction Parser.unary inner ts generalizing e rest with
  | case1 n after =>
    cases h
    exact ⟨[.minus, .integer n], rfl, .negativeInteger n⟩
  | case2 x after =>
    cases h
    exact ⟨[.minus, .float x], rfl, .negativeFloat x⟩
  | case3 after hint hfloat ih =>
    simp only [bind_eq_ok_iff, Prod.exists] at h
    obtain ⟨operand, after', ho, h⟩ := h
    obtain ⟨front, rfl, hd⟩ := ih ho
    cases h
    refine ⟨.minus :: front, rfl, .negation ?_ hd⟩
    rintro t ht (⟨n, rfl⟩ | ⟨x, rfl⟩)
    · obtain ⟨us, rfl⟩ := List.head?_eq_some_iff.1 ht
      exact hint n (us ++ rest) rfl
    · obtain ⟨us, rfl⟩ := List.head?_eq_some_iff.1 ht
      exact hfloat x (us ++ rest) rfl
  | case4 after ih =>
    simp only [bind_eq_ok_iff, Prod.exists] at h
    obtain ⟨operand, after', ho, h⟩ := h
    obtain ⟨front, rfl, hd⟩ := ih ho
    cases h
    exact ⟨.bang :: front, rfl, .not hd⟩
  | case5 =>
    exact (sound_suffixed hi).mono (fun _ _ => .tighter rfl) h

/-! ### Chains and comparisons -/

/-- Operators with their operands continue what was read before them. -/
theorem extend_sound {level next : Level} {operand : Parser Expr} (hn : level.next? = some next)
    (ho : Sound operand (Derives next)) {front ts rest : List Token} {left e : Expr}
    (turns : Nat) (hl : Derives level front left)
    (h : Parser.extend level.sign operand turns left ts = .ok (e, rest)) :
    ∃ us, ts = us ++ rest ∧ Derives level (front ++ us) e := by
  induction turns generalizing front ts left with
  | zero =>
    cases h
    exact ⟨[], rfl, by rwa [List.append_nil]⟩
  | succ turns ih =>
    cases ts with
    | nil =>
      cases h
      exact ⟨[], rfl, by rwa [List.append_nil]⟩
    | cons t ts =>
      unfold Parser.extend at h
      split at h
      · cases h
        exact ⟨[], rfl, by rwa [List.append_nil]⟩
      · next op hs =>
        simp only [bind_eq_ok_iff, Prod.exists] at h
        obtain ⟨right, after, hr, h⟩ := h
        obtain ⟨us, rfl, hd⟩ := ho hr
        obtain ⟨vs, rfl, hv⟩ := ih (.chain hn (mem_chained_iff.2 hs) hl hd) h
        exact ⟨t :: us ++ vs, by simp, by simpa using hv⟩

theorem sound_chain (level : Level) {next : Level} {operand : Parser Expr}
    (hn : level.next? = some next) (ho : Sound operand (Derives next)) :
    Sound (Parser.chain level.sign operand) (Derives level) := by
  intro ts e rest h
  simp only [Parser.chain, bind_eq_ok_iff, Prod.exists] at h
  obtain ⟨left, after, hl, h⟩ := h
  obtain ⟨front, rfl, hd⟩ := ho hl
  obtain ⟨us, rfl, hu⟩ := extend_sound hn ho _ (.tighter hn hd) h
  exact ⟨front ++ us, by simp, hu⟩

theorem sound_comparison {operand : Parser Expr} (ho : Sound operand (Derives .sum)) :
    Sound (Parser.once Parser.comparisonSign operand) (Derives .comparison) := by
  intro ts e rest h
  simp only [Parser.once, bind_eq_ok_iff, Prod.exists] at h
  obtain ⟨left, after, hl, h⟩ := h
  obtain ⟨front, rfl, hd⟩ := ho hl
  split at h
  · cases h
    exact ⟨front, rfl, .tighter rfl hd⟩
  · split at h
    · cases h
      exact ⟨front, rfl, .tighter rfl hd⟩
    · next t after' _ op hs =>
      simp only [bind_eq_ok_iff, Prod.exists] at h
      obtain ⟨right, rest', hr, h⟩ := h
      obtain ⟨us, rfl, hu⟩ := ho hr
      cases h
      exact ⟨front ++ t :: us, by simp, .comparison (mem_comparisons_iff.2 hs) hd hu⟩

theorem sound_coalescing (hi : Sound inner (Derives .expression)) :
    Sound (Parser.coalescing inner) (Derives .coalescing) := by
  have product : Sound (Parser.product inner) (Derives .product) :=
    sound_chain .product rfl (sound_unary hi)
  have sum : Sound (Parser.sum inner) (Derives .sum) := sound_chain .sum rfl product
  have comparison : Sound (Parser.comparison inner) (Derives .comparison) := sound_comparison sum
  have conjunction : Sound (Parser.conjunction inner) (Derives .conjunction) :=
    sound_chain .conjunction rfl comparison
  have disjunction : Sound (Parser.disjunction inner) (Derives .disjunction) :=
    sound_chain .disjunction rfl conjunction
  exact sound_chain .coalescing rfl disjunction

end Levels

/-! ### Whole expressions -/

theorem sound_expression (depth : Nat) :
    Sound (Parser.expression depth) (Derives .expression) := by
  induction depth with
  | zero => intro ts e rest h; cases h
  | succ depth ih =>
    intro ts e rest h
    unfold Parser.expression at h
    split at h
    · next names after hh =>
      simp only [bind_eq_ok_iff, Prod.exists] at h
      obtain ⟨body, rest', hb, h⟩ := h
      obtain ⟨us, rfl, hd⟩ := ih hb
      cases h
      rcases header_sound hh with ⟨name, rfl, rfl⟩ | ⟨ns, hns, rfl⟩
      · exact ⟨.identifier name :: .arrow :: us, rfl, .arrow name hd⟩
      · exact ⟨.openParen :: (ns ++ .closeParen :: .arrow :: us), by simp, .header hns hd⟩
    · exact (sound_coalescing ih).mono (fun _ _ => .tighter rfl) h

end Projections.Grammar
