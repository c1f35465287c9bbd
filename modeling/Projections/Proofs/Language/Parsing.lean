import Projections.Proofs.Language.Completeness

/-! Sources as expressions. A source parses exactly when it has tokens to its end and
the grammar derives an expression from them; there is at most one. -/

namespace Projections.Grammar

/-- Tokens that a source consists of to its end. -/
def Tokenizes (source : String) (ts : List Token) : Prop :=
  (lex source).tokens = ts ∧ ∃ position, (lex source).ending = .finished position

theorem Derives.unique {ts : List Token} {e e' : Expr} (h : Derives .expression ts e)
    (h' : Derives .expression ts e') : e = e' := by
  have he := (expression_eq_of_derives h).symm.trans (expression_eq_of_derives h')
  cases he
  rfl

theorem parse_of_derives {source : String} {ts : List Token} {e : Expr}
    (ht : Tokenizes source ts) (hd : Derives .expression ts e) : parse source = .ok e := by
  obtain ⟨rfl, position, hp⟩ := ht
  simp only [parse, Lexed.parse, expression_eq_of_derives hd, hp]

theorem derives_of_parse {source : String} {e : Expr} (h : parse source = .ok e) :
    ∃ ts, Tokenizes source ts ∧ Derives .expression ts e := by
  unfold parse Lexed.parse at h
  split at h
  · cases h
  · next e' hx =>
    split at h
    · next position hp =>
      cases h
      obtain ⟨front, hf, hd⟩ := sound_expression _ hx
      rw [List.append_nil] at hf
      exact ⟨front, ⟨hf, position, hp⟩, hd⟩
    · cases h
  · cases h

/-- Parsing succeeds exactly on the sources whose tokens the grammar derives, with the
tree derived; no source has two. -/
theorem parse_eq_ok_iff_derives (source : String) :
    (∀ e, parse source = .ok e ↔ ∃ ts, Tokenizes source ts ∧ Derives .expression ts e) ∧
      ∀ ts e e', Tokenizes source ts → Derives .expression ts e → Derives .expression ts e' →
        e = e' := by
  refine ⟨fun e => ⟨derives_of_parse, ?_⟩, fun ts e e' _ => Derives.unique⟩
  rintro ⟨ts, ht, hd⟩
  exact parse_of_derives ht hd

end Projections.Grammar
