import Mathlib.Data.List.Infix
import Projections.Selector.Composition
import Projections.Selector.Fields

/-! The chains that an expression reads, under different roots of its names. A name that
stands for another chain, or for none, moves or loses what is read through it and nothing
else. A call between a collection and its projection loses what the projection reads of
the elements. -/

namespace Projections

namespace Expr

/-! ### Arguments -/

theorem readsOfArguments_cons (roots : Roots) (chain : Option Chain) (e : Expr) (es : List Expr) :
    readsOfArguments roots chain (e :: es) =
      readsOfArguments roots chain [e] ++ readsOfArguments roots chain es := by
  rw [readsOfArguments.eq_def, readsOfArguments.eq_def roots chain [e]]
  change _ = (_ ++ []) ++ _
  rw [List.append_nil]

/-- An argument that is no function of one parameter reads what it reads by itself. -/
theorem readsOfArguments_of_value {e : Expr} (he : ∀ parameter body, e ≠ .lambda [parameter] body)
    (roots : Roots) (chain : Option Chain) : readsOfArguments roots chain [e] = reads roots e := by
  rw [readsOfArguments, readsOfArguments, List.append_nil]
  exact fun parameter body _ heq _ => he parameter body heq

/-- The roots in a function that is called on a chain, or on something else. -/
def under (parameter : String) (chain : Option Chain) (roots : Roots) : Roots :=
  match chain with
  | some c => (parameter, c) :: roots
  | none => roots

theorem lookup_under (parameter n : String) (chain : Option Chain) (roots : Roots) :
    (under parameter chain roots).lookup n =
      if n = parameter then chain.or (roots.lookup n) else roots.lookup n := by
  cases chain with
  | none => simp [under]
  | some c =>
    rw [under, List.lookup_cons]
    by_cases h : n = parameter
    · simp [h]
    · simp [h, beq_false_of_ne h]

/-- The parameter of a function argument stands for the elements of the chain. -/
theorem readsOfArguments_of_lambda (parameter : String) (body : Expr) (roots : Roots)
    (chain : Option Chain) : readsOfArguments roots chain [.lambda [parameter] body] =
      reads (under parameter chain roots) body := by
  cases chain <;> exact List.append_nil _

/-! ### Roots that differ -/

/-- Every name stands for the same chain under both roots, or for a marked one under the
first. -/
def Covered (Q : Chain → Prop) (names : List String) (roots roots' : Roots) : Prop :=
  ∀ n ∈ names, roots.lookup n = roots'.lookup n ∨ ∃ chain, roots.lookup n = some chain ∧ Q chain

variable {Q : Chain → Prop} {names more : List String} {roots roots' : Roots}

namespace Covered

theorem of_append (h : Covered Q (names ++ more) roots roots') :
    Covered Q names roots roots' ∧ Covered Q more roots roots' :=
  ⟨fun n hn => h n (List.mem_append_left _ hn), fun n hn => h n (List.mem_append_right _ hn)⟩

/-- A parameter may stand for the same chain under both roots, or for a marked one under the
first. -/
theorem under (parameter : String) {chain chain' : Option Chain}
    (hc : chain = chain' ∨ ∃ c, chain = some c ∧ Q c) (h : Covered Q names roots roots') :
    Covered Q names (Expr.under parameter chain roots) (Expr.under parameter chain' roots') := by
  intro n hn
  rw [lookup_under, lookup_under]
  split_ifs
  · rcases hc with rfl | ⟨c, rfl, hq⟩
    · cases chain with
      | none => exact h n hn
      | some c => exact .inl rfl
    · exact .inr ⟨c, rfl, hq⟩
  · exact h n hn

end Covered

/-- The chain that an expression is, or else the chains it reads. -/
def chainOr (chain : Option Chain) (others : List Chain) : List Chain :=
  match chain with
  | some c => [c]
  | none => others

theorem reads_call (roots : Roots) (base : Expr) (method : String) (arguments : List Expr) :
    reads roots (.call base method arguments) = chainOr (chain? roots base) (reads roots base) ++
      readsOfArguments roots (chain? roots base) arguments := by
  rw [reads]
  cases chain? roots base <;> rfl

theorem chainOr_covered {chain chain' : Option Chain} {as as' : List Chain}
    (hc : chain = chain' ∨ ∃ c, chain = some c ∧ Q c) (h : ∀ c ∈ as, c ∈ as' ∨ Q c) :
    ∀ c ∈ chainOr chain as, c ∈ chainOr chain' as' ∨ Q c := by
  rcases hc with rfl | ⟨c, rfl, hq⟩
  · cases chain with
    | none => exact h
    | some c => exact fun _ hm => .inl hm
  · intro _ hm
    exact .inr (List.mem_singleton.1 hm ▸ hq)

theorem mem_append_covered {as bs as' bs' : List Chain} (ha : ∀ c ∈ as, c ∈ as' ∨ Q c)
    (hb : ∀ c ∈ bs, c ∈ bs' ∨ Q c) : ∀ c ∈ as ++ bs, c ∈ as' ++ bs' ∨ Q c := by
  intro c hc
  rcases List.mem_append.1 hc with hc | hc
  · exact (ha c hc).imp_left (List.mem_append_left _)
  · exact (hb c hc).imp_left (List.mem_append_right _)

/-- A chain under the first roots is one under the second, or marked. -/
theorem chain_covered (hQ : ∀ chain field, Q chain → Q (chain ++ [field])) : ∀ (e : Expr),
    Covered Q e.names roots roots' →
      chain? roots e = chain? roots' e ∨ ∃ chain, chain? roots e = some chain ∧ Q chain
  | .name n, h => h n (List.mem_singleton.2 rfl)
  | .member base field, h => by
    rw [chain?, chain?]
    rcases chain_covered hQ base h with heq | ⟨chain, hc, hq⟩
    · exact .inl (congrArg _ heq)
    · exact .inr ⟨_, by rw [hc]; rfl, hQ chain field hq⟩
  | .index base _, h => chain_covered hQ base h.of_append.1
  | .call _ _ _, _ | .lambda _ _, _ | .not _, _ | .binary _ _ _, _ | .object _, _ | .array _, _
  | .float _, _ | .integer _, _ | .string _, _ | .boolean _, _ | .null, _ => .inl rfl

mutual

/-- What is read under the first roots is read under the second, or marked. -/
theorem reads_covered (hQ : ∀ chain field, Q chain → Q (chain ++ [field])) : ∀ (e : Expr)
    {roots roots' : Roots}, Covered Q e.names roots roots' →
      ∀ chain ∈ reads roots e, chain ∈ reads roots' e ∨ Q chain
  | .name n, roots, roots', h, chain, hm => by
    rw [reads, Option.mem_toList] at hm ⊢
    rcases h n (List.mem_singleton.2 rfl) with heq | ⟨c, hc, hq⟩
    · exact .inl (heq ▸ hm)
    · exact .inr (Option.some.inj (hc.symm.trans hm) ▸ hq)
  | .member base field, roots, roots', h, chain, hm => by
    have hc := chain_covered hQ (.member base field) h
    exact chainOr_covered hc (reads_covered hQ base h) chain hm
  | .index base position, _, _, h, chain, hm => by
    obtain ⟨hbase, hposition⟩ := h.of_append
    exact mem_append_covered (reads_covered hQ base hbase) (reads_covered hQ position hposition)
      chain hm
  | .call base method arguments, roots, roots', h, chain, hm => by
    obtain ⟨hbase, harguments⟩ := h.of_append
    have hc := chain_covered hQ base hbase
    rw [reads_call] at hm ⊢
    exact mem_append_covered (chainOr_covered hc (reads_covered hQ base hbase))
      (readsOfArguments_covered hQ arguments hc harguments) chain hm
  | .lambda _ body, _, _, h, chain, hm => reads_covered hQ body h.of_append.2 chain hm
  | .not operand, _, _, h, chain, hm => reads_covered hQ operand h chain hm
  | .binary _ left right, _, _, h, chain, hm => by
    obtain ⟨hleft, hright⟩ := h.of_append
    exact mem_append_covered (reads_covered hQ left hleft) (reads_covered hQ right hright) chain hm
  | .object entries, _, _, h, chain, hm => readsOfEntries_covered hQ entries h chain hm
  | .array items, _, _, h, chain, hm => readsOfAll_covered hQ items h chain hm

theorem readsOfAll_covered (hQ : ∀ chain field, Q chain → Q (chain ++ [field])) :
    ∀ (es : List Expr) {roots roots' : Roots}, Covered Q (namesOfAll es) roots roots' →
      ∀ chain ∈ readsOfAll roots es, chain ∈ readsOfAll roots' es ∨ Q chain
  | e :: es, _, _, h, chain, hm => by
    obtain ⟨he, hes⟩ := h.of_append
    exact mem_append_covered (reads_covered hQ e he) (readsOfAll_covered hQ es hes) chain hm

theorem readsOfEntries_covered (hQ : ∀ chain field, Q chain → Q (chain ++ [field])) :
    ∀ (entries : List (String × Expr)) {roots roots' : Roots},
      Covered Q (namesOfEntries entries) roots roots' →
        ∀ chain ∈ readsOfEntries roots entries, chain ∈ readsOfEntries roots' entries ∨ Q chain
  | (_, e) :: es, _, _, h, chain, hm => by
    obtain ⟨he, hes⟩ := h.of_append
    exact mem_append_covered (reads_covered hQ e he) (readsOfEntries_covered hQ es hes) chain hm

theorem function_covered (hQ : ∀ chain field, Q chain → Q (chain ++ [field])) : ∀ (e : Expr)
    {parameter : String} {body : Expr} {base base' : Option Chain} {roots roots' : Roots},
      e = .lambda [parameter] body → (base = base' ∨ ∃ c, base = some c ∧ Q c) →
        Covered Q e.names roots roots' → ∀ chain ∈ reads (under parameter base roots) body,
          chain ∈ reads (under parameter base' roots') body ∨ Q chain
  | .lambda [parameter] body, _, _, _, _, _, _, rfl, hb, h, chain, hm =>
    reads_covered hQ body (h.of_append.2.under parameter hb) chain hm

theorem readsOfArguments_covered (hQ : ∀ chain field, Q chain → Q (chain ++ [field])) :
    ∀ (es : List Expr) {base base' : Option Chain} {roots roots' : Roots},
      (base = base' ∨ ∃ c, base = some c ∧ Q c) → Covered Q (namesOfAll es) roots roots' →
        ∀ chain ∈ readsOfArguments roots base es,
          chain ∈ readsOfArguments roots' base' es ∨ Q chain
  | e :: es, base, base', roots, roots', hb, h, chain, hm => by
    obtain ⟨he, hes⟩ := h.of_append
    rw [readsOfArguments_cons] at hm ⊢
    refine mem_append_covered ?_ (readsOfArguments_covered hQ es hb hes) chain hm
    by_cases hlambda : ∃ parameter body, e = .lambda [parameter] body
    · obtain ⟨parameter, body, hbody⟩ := hlambda
      have hreads := function_covered hQ e hbody hb he
      rwa [hbody, readsOfArguments_of_lambda, readsOfArguments_of_lambda]
    · push Not at hlambda
      rw [readsOfArguments_of_value hlambda, readsOfArguments_of_value hlambda]
      exact reads_covered hQ e he

end

/-! ### Nothing in force -/

theorem chain?_nil : ∀ e : Expr, chain? [] e = none
  | .name _ => rfl
  | .member base _ => by rw [chain?, chain?_nil base, Option.map_none]
  | .index base _ => chain?_nil base
  | .call _ _ _ | .lambda _ _ | .not _ | .binary _ _ _ | .object _ | .array _
  | .float _ | .integer _ | .string _ | .boolean _ | .null => rfl

mutual

theorem reads_nil : ∀ e : Expr, reads [] e = []
  | .name _ => rfl
  | .member base field => by
    rw [reads, chain?_nil]
    exact reads_nil base
  | .index base position => by rw [reads, reads_nil base, reads_nil position, List.append_nil]
  | .call base _ arguments => by
    rw [reads_call, chain?_nil, readsOfArguments_nil arguments, List.append_nil]
    exact reads_nil base
  | .lambda _ body => reads_nil body
  | .not operand => reads_nil operand
  | .binary _ left right => by rw [reads, reads_nil left, reads_nil right, List.append_nil]
  | .object entries => readsOfEntries_nil entries
  | .array items => readsOfAll_nil items
  | .float _ | .integer _ | .string _ | .boolean _ | .null => rfl

theorem readsOfAll_nil : ∀ es : List Expr, readsOfAll [] es = []
  | [] => rfl
  | e :: es => by rw [readsOfAll, reads_nil e, readsOfAll_nil es, List.append_nil]

theorem readsOfEntries_nil : ∀ entries : List (String × Expr), readsOfEntries [] entries = []
  | [] => rfl
  | (_, e) :: es => by rw [readsOfEntries, reads_nil e, readsOfEntries_nil es, List.append_nil]

theorem readsOfArguments_nil : ∀ es : List Expr, readsOfArguments [] none es = []
  | [] => rfl
  | e :: es => by
    have he : readsOfArguments [] none [e] = reads [] e := by
      rw [readsOfArguments, readsOfArguments, List.append_nil]
      nofun
    rw [readsOfArguments_cons, he, reads_nil e, readsOfArguments_nil es, List.append_nil]

end

/-- An expression without a name that stands for a chain reads nothing. -/
theorem reads_eq_nil {e : Expr} (h : ∀ n ∈ e.names, roots.lookup n = none) :
    reads roots e = [] := by
  have hcovered : Covered (fun _ => False) e.names roots [] := fun n hn => .inl (h n hn)
  refine List.eq_nil_iff_forall_not_mem.2 fun chain hm => ?_
  rcases reads_covered (fun _ _ hq => hq) e hcovered chain hm with hnil | hfalse
  · rw [reads_nil] at hnil
    cases hnil
  · exact hfalse

end Expr

/-! ### Projections of elements -/

open Projections.Expr

namespace Selector

/-- The selector that projects the elements of a collection. -/
def projecting (p : String) (collection : Expr) (c : String) (body : Expr) : Selector :=
  ⟨p, .call collection "Select" [.lambda [c] body]⟩

variable {Q : Chain → Prop} {p c method : String} {collection body : Expr}
  {arguments : List Expr} {chain : Chain}

/-- A projection of a chain reads the chain, and its parameter stands for the elements there. -/
theorem reads_projecting (h : chain? [(p, [])] collection = some chain) :
    reads [(p, [])] (projecting p collection c body).body =
      chain :: reads (under c (some chain) [(p, [])]) body := by
  rw [projecting, reads_call, h, readsOfArguments_of_lambda]
  rfl

/-- After a call the parameter stands for no chain. -/
theorem reads_projecting_call (h : chain? [(p, [])] collection = some chain) :
    reads [(p, [])] (projecting p (.call collection method arguments) c body).body =
      chain :: (readsOfArguments [(p, [])] (some chain) arguments ++
        reads (under c none [(p, [])]) body) := by
  have hcall : chain? [(p, [])] (.call collection method arguments) = none := rfl
  rw [projecting, reads_call, readsOfArguments_of_lambda, hcall, reads_call, h]
  rfl

theorem mem_fields_iff {s : Selector} {field : Chain} :
    field ∈ s.toLambda.fields ↔ field ∈ reads [(s.parameter, [])] s.body ∧ field ≠ [] := by
  change field ∈ List.filter _ (reads [(s.parameter, [])] s.body) ↔ _
  rw [List.mem_filter]
  simp

/-- What a projection reads is read after a call as well, up to marked chains, if the
projection's parameter may stand for no chain. -/
theorem fields_covered (hQ : ∀ chain field, Q chain → Q (chain ++ [field]))
    (h : chain? [(p, [])] collection = some chain)
    (hc : Covered Q body.names (under c (some chain) [(p, [])]) (under c none [(p, [])]))
    {field : Chain} (hfield : field ∈ (projecting p collection c body).toLambda.fields) :
    field ∈ (projecting p (.call collection method arguments) c body).toLambda.fields ∨
      field ≠ chain ∧ Q field := by
  obtain ⟨hread, hne⟩ := mem_fields_iff.1 hfield
  change field ∈ reads [(p, [])] _ at hread
  rw [reads_projecting h] at hread
  by_cases hchain : field = chain
  · refine .inl (mem_fields_iff.2 ⟨?_, hne⟩)
    change field ∈ reads [(p, [])] _
    rw [reads_projecting_call h, hchain]
    exact List.mem_cons_self ..
  · have hbody := (List.mem_cons.1 hread).resolve_left hchain
    refine (reads_covered hQ body hc field hbody).imp (fun hm => mem_fields_iff.2 ⟨?_, hne⟩)
      fun hq => ⟨hchain, hq⟩
    change field ∈ reads [(p, [])] _
    rw [reads_projecting_call h]
    exact List.mem_cons_of_mem _ (List.mem_append_right _ hm)

/-- What is lost goes on from the collection. -/
theorem kept_or_below (h : chain? [(p, [])] collection = some chain) {field : Chain}
    (hfield : field ∈ (projecting p collection c body).toLambda.fields) :
    field ∈ (projecting p (.call collection method arguments) c body).toLambda.fields ∨
      ∃ name rest, field = chain ++ name :: rest := by
  have hbelow : ∀ front name, chain <+: front → chain <+: front ++ [name] :=
    fun front name hf => hf.trans (List.prefix_append ..)
  have hcovered : Covered (chain <+: ·) body.names (under c (some chain) [(p, [])])
      (under c none [(p, [])]) :=
    .under c (.inr ⟨chain, rfl, List.prefix_rfl⟩) fun n _ => .inl rfl
  refine (fields_covered hbelow h hcovered hfield).imp_right ?_
  rintro ⟨hne, rest, rfl⟩
  cases rest with
  | nil => exact absurd (List.append_nil chain) hne
  | cons name rest => exact ⟨name, rest, rfl⟩

/-- Nothing is lost that is not read through the parameter. -/
theorem kept_of_parameter_unread (h : chain? [(p, [])] collection = some chain)
    (hbody : c ∉ body.names) {field : Chain}
    (hfield : field ∈ (projecting p collection c body).toLambda.fields) :
    field ∈ (projecting p (.call collection method arguments) c body).toLambda.fields := by
  have hcovered : Covered (fun _ => False) body.names (under c (some chain) [(p, [])])
      (under c none [(p, [])]) := by
    intro n hn
    have hne : n ≠ c := fun heq => hbody (heq ▸ hn)
    rw [lookup_under, lookup_under, if_neg hne, if_neg hne]
    exact .inl rfl
  exact (fields_covered (fun _ _ hf => hf) h hcovered hfield).resolve_right And.right

/-- After a call, a projection that leaves the row alone asks for nothing. -/
theorem fields_of_row_unread (hbody : p ∉ body.names) :
    (projecting p (.call collection method arguments) c body).toLambda.fields =
      (Selector.mk p (.call collection method arguments)).toLambda.fields := by
  have hnone : ∀ n ∈ body.names, (under c none [(p, [])]).lookup n = none := by
    intro n hn
    have hne : n ≠ p := fun heq => hbody (heq ▸ hn)
    rw [under, List.lookup_cons, beq_false_of_ne hne]
    rfl
  have hcall : chain? [(p, [])] (.call collection method arguments) = none := rfl
  have hreads : reads [(p, [])] (projecting p (.call collection method arguments) c body).body =
      reads [(p, [])] (.call collection method arguments) := by
    rw [projecting, reads_call, readsOfArguments_of_lambda, hcall, reads_eq_nil hnone,
      List.append_nil]
    rfl
  exact congrArg (List.filter _) hreads

/-- A call on a collection before its projection loses at most chains that go on from the
collection, and none of those the projection does not read through its parameter. What is
read only through the parameter is lost. -/
theorem fields_of_call_before_projection (p c method : String) (collection body : Expr)
    (arguments : List Expr) (chain : Chain) (h : chain? [(p, [])] collection = some chain) :
    (∀ field ∈ (projecting p collection c body).toLambda.fields,
      field ∈ (projecting p (.call collection method arguments) c body).toLambda.fields ∨
        ∃ name rest, field = chain ++ name :: rest) ∧
    (c ∉ body.names → ∀ field ∈ (projecting p collection c body).toLambda.fields,
      field ∈ (projecting p (.call collection method arguments) c body).toLambda.fields) ∧
    (p ∉ body.names →
      (projecting p (.call collection method arguments) c body).toLambda.fields =
        (Selector.mk p (.call collection method arguments)).toLambda.fields) :=
  ⟨fun _ => kept_or_below h, fun hbody _ => kept_of_parameter_unread h hbody,
    fields_of_row_unread⟩

/-- A projection to what is no part of the elements loses nothing, and one to a part of them
asks for nothing. -/
theorem fields_of_take_before_projection :
    let collection := Expr.member (.name "p") "Comments"
    let taken := Expr.call collection "Take" [.integer 2]
    let title := Expr.member (.name "p") "Title"
    let text := Expr.member (.name "c") "Body"
    chain? [("p", [])] collection = some ["Comments"] ∧ "c" ∉ title.names ∧ "p" ∉ text.names ∧
      (∀ field ∈ (projecting "p" collection "c" title).toLambda.fields,
        field ∈ (projecting "p" taken "c" title).toLambda.fields) ∧
      (projecting "p" taken "c" text).toLambda.fields =
        (Selector.mk "p" taken).toLambda.fields := by
  intro collection taken title text
  have hchain : chain? [("p", [])] collection = some ["Comments"] := rfl
  have hc : "c" ∉ title.names := by decide
  have hp : "p" ∉ text.names := by decide
  have htitle := fields_of_call_before_projection "p" "c" "Take" collection title [.integer 2]
    ["Comments"] hchain
  have htext := fields_of_call_before_projection "p" "c" "Take" collection text [.integer 2]
    ["Comments"] hchain
  exact ⟨hchain, hc, hp, htitle.2.1 hc, htext.2.2 hp⟩

/-- After a call the fields of the elements are not asked for. -/
theorem body_lost_after_take :
    let collection := Expr.member (.name "p") "Comments"
    let body := Expr.member (.name "c") "Body"
    (projecting "p" collection "c" body).toLambda.fields = [["Comments"], ["Comments", "Body"]] ∧
      (projecting "p" (.call collection "Take" [.integer 2]) "c" body).toLambda.fields =
        [["Comments"]] := by
  decide

end Selector

end Projections
