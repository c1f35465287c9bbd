import Projections.Proofs.Selector.Reads

/-! Member chains that are written in a selector, and the fields it asks for. A chain from the
row is a prefix of a field wherever it is written, except in the position of an element that a
chain goes on from: a chain is asked for as a whole, and what stands in its positions is not
looked at. -/

namespace Projections

namespace Expr

/-! ### Parts -/

/-- A part of an expression, with the roots in force there. No function on the way to it hides
the name. -/
inductive Part (p : String) (inner : Roots) (part : Expr) : Roots → Expr → Prop
  | self : Part p inner part inner part
  | member {roots : Roots} {base : Expr} {field : String} (h : Part p inner part roots base) :
      Part p inner part roots (.member base field)
  | base {roots : Roots} {base position : Expr} (h : Part p inner part roots base) :
      Part p inner part roots (.index base position)
  | position {roots : Roots} {base position : Expr} (h : Part p inner part roots position) :
      Part p inner part roots (.index base position)
  | receiver {roots : Roots} {base : Expr} {method : String} {arguments : List Expr}
      (h : Part p inner part roots base) : Part p inner part roots (.call base method arguments)
  | argument {roots : Roots} {base e : Expr} {method : String} {arguments : List Expr}
      (he : e ∈ arguments) (hvalue : ∀ parameter body, e ≠ .lambda [parameter] body)
      (h : Part p inner part roots e) : Part p inner part roots (.call base method arguments)
  | function {roots : Roots} {base body : Expr} {method parameter : String}
      {arguments : List Expr} (he : .lambda [parameter] body ∈ arguments) (hp : parameter ≠ p)
      (h : Part p inner part (under parameter (chain? roots base) roots) body) :
      Part p inner part roots (.call base method arguments)
  | lambda {roots : Roots} {parameters : List String} {body : Expr} (hp : p ∉ parameters)
      (h : Part p inner part roots body) : Part p inner part roots (.lambda parameters body)
  | operand {roots : Roots} {operand : Expr} (h : Part p inner part roots operand) :
      Part p inner part roots (.not operand)
  | left {roots : Roots} {op : BinaryOp} {left right : Expr} (h : Part p inner part roots left) :
      Part p inner part roots (.binary op left right)
  | right {roots : Roots} {op : BinaryOp} {left right : Expr}
      (h : Part p inner part roots right) : Part p inner part roots (.binary op left right)
  | entry {roots : Roots} {key : String} {e : Expr} {entries : List (String × Expr)}
      (he : (key, e) ∈ entries) (h : Part p inner part roots e) :
      Part p inner part roots (.object entries)
  | item {roots : Roots} {e : Expr} {items : List Expr} (he : e ∈ items)
      (h : Part p inner part roots e) : Part p inner part roots (.array items)

theorem Part.trans {p : String} {inner middle roots : Roots} {part between e : Expr}
    (h : Part p middle between roots e) (h' : Part p inner part middle between) :
    Part p inner part roots e := by
  induction h with
  | self => exact h'
  | member _ ih => exact .member ih
  | base _ ih => exact .base ih
  | position _ ih => exact .position ih
  | receiver _ ih => exact .receiver ih
  | argument he hvalue _ ih => exact .argument he hvalue ih
  | function he hp _ ih => exact .function he hp ih
  | lambda hp _ ih => exact .lambda hp ih
  | operand _ ih => exact .operand ih
  | left _ ih => exact .left ih
  | right _ ih => exact .right ih
  | entry he _ ih => exact .entry he ih
  | item he _ ih => exact .item he ih

/-- The member chain from a name. -/
def chained (p : String) (chain : Chain) : Expr := chain.foldl .member (.name p)

/-- The chain is written somewhere, from the name itself. -/
def Written (p : String) (chain : Chain) (roots : Roots) (e : Expr) : Prop :=
  ∃ inner, Part p inner (chained p chain) roots e

/-- The positions of the elements that are taken along a chain. -/
def positions : Expr → List Expr
  | .member base _ => base.positions
  | .index base position => position :: base.positions
  | _ => []

/-- A member or a call of an expression. -/
inductive GoesOn (base : Expr) : Expr → Prop
  | member (field : String) : GoesOn base (.member base field)
  | call (method : String) (arguments : List Expr) : GoesOn base (.call base method arguments)

/-- The chain is written in a position along a chain that goes on. -/
def Passed (p : String) (chain : Chain) (roots : Roots) (e : Expr) : Prop :=
  ∃ inner base part, Part p inner part roots e ∧ GoesOn base part ∧
    (chain? inner base).isSome = true ∧ ∃ position ∈ base.positions, Written p chain inner position

variable {p : String} {chain : Chain} {inner roots : Roots} {e : Expr}

theorem Passed.of_part {between : Expr} (h : Part p inner between roots e)
    (hpassed : Passed p chain inner between) : Passed p chain roots e := by
  obtain ⟨innermost, base, part, hpart, hrest⟩ := hpassed
  exact ⟨innermost, base, part, h.trans hpart, hrest⟩

/-! ### Chains -/

theorem chain?_foldl_member (chain : Chain) (e : Expr) :
    chain? roots (chain.foldl .member e) = (chain? roots e).map (· ++ chain) := by
  induction chain generalizing e with
  | nil => simp
  | cons field rest ih => simp [ih, chain?, Function.comp_def]

theorem chain?_chained (hp : roots.lookup p = some []) :
    chain? roots (chained p chain) = some chain := by
  rw [chained, chain?_foldl_member, chain?, hp, Option.map_some, List.nil_append]

/-- A chain is read where it stands. -/
theorem mem_reads_of_chain : ∀ (e : Expr) {chain : Chain}, chain? roots e = some chain →
    chain ∈ reads roots e
  | .name _, _, h => Option.mem_toList.2 h
  | .member base field, chain, h => by
    rw [reads, h]
    exact List.mem_singleton_self chain
  | .index base _, _, h => List.mem_append_left _ (mem_reads_of_chain base h)

/-- What is written on a chain is a prefix of it, or stands in one of its positions. -/
theorem prefix_of_part (h : Part p inner (chained p chain) roots e)
    (hp : roots.lookup p = some []) {whole : Chain} (hw : chain? roots e = some whole) :
    chain <+: whole ∨ ∃ position ∈ e.positions, Written p chain roots position := by
  induction h generalizing whole with
  | self =>
    rw [chain?_chained hp] at hw
    cases hw
    exact .inl List.prefix_rfl
  | member _ ih =>
    obtain ⟨front, hfront, rfl⟩ := Option.map_eq_some_iff.1 hw
    exact (ih hp hfront).imp_left fun h => h.trans (List.prefix_append ..)
  | base _ ih =>
    refine (ih hp hw).imp_right ?_
    rintro ⟨position, hposition, hwritten⟩
    exact ⟨position, List.mem_cons_of_mem _ hposition, hwritten⟩
  | position h _ => exact .inr ⟨_, List.mem_cons_self .., inner, h⟩
  -- nothing else is a chain
  | receiver _ _ | argument _ _ _ _ | function _ _ _ _ | lambda _ _ _ | operand _ _ | left _ _
  | right _ _ | entry _ _ _ | item _ _ _ => cases hw

/-- What is read after a chain depends on the chain alone. -/
theorem reads_of_same_chain {base other : Expr} {whole : Chain}
    (h : chain? roots base = some whole) (h' : chain? roots other = some whole) :
    (∀ field, reads roots (.member base field) = reads roots (.member other field)) ∧
      ∀ method arguments,
        reads roots (.call base method arguments) = reads roots (.call other method arguments) := by
  constructor
  · intro field
    simp only [reads, chain?, h, h', Option.map_some]
  · intro method arguments
    rw [reads_call, reads_call, h, h']
    rfl

/-! ### Lists -/

theorem readsOfAll_eq (roots : Roots) (es : List Expr) :
    readsOfAll roots es = es.flatMap (reads roots) := by
  induction es with
  | nil => rfl
  | cons e es ih => rw [readsOfAll, ih, List.flatMap_cons]

theorem readsOfEntries_eq (roots : Roots) (entries : List (String × Expr)) :
    readsOfEntries roots entries = entries.flatMap fun entry => reads roots entry.2 := by
  induction entries with
  | nil => rfl
  | cons entry entries ih => rw [readsOfEntries, ih, List.flatMap_cons]

theorem readsOfArguments_eq (roots : Roots) (base : Option Chain) (es : List Expr) :
    readsOfArguments roots base es = es.flatMap fun e => readsOfArguments roots base [e] := by
  induction es with
  | nil => rfl
  | cons e es ih => rw [readsOfArguments_cons, ih, List.flatMap_cons]

theorem subset_readsOfAll {es : List Expr} (he : e ∈ es) : reads roots e ⊆ readsOfAll roots es := by
  rw [readsOfAll_eq]
  exact fun _ h => List.mem_flatMap.2 ⟨e, he, h⟩

theorem subset_readsOfEntries {key : String} {entries : List (String × Expr)}
    (he : (key, e) ∈ entries) : reads roots e ⊆ readsOfEntries roots entries := by
  rw [readsOfEntries_eq]
  exact fun _ h => List.mem_flatMap.2 ⟨(key, e), he, h⟩

theorem subset_readsOfArguments {base : Option Chain} {es : List Expr} (he : e ∈ es) :
    readsOfArguments roots base [e] ⊆ readsOfArguments roots base es := by
  rw [readsOfArguments_eq roots base es]
  exact fun _ h => List.mem_flatMap.2 ⟨e, he, h⟩

/-! ### What is asked for -/

/-- Some of the chains is the given one or goes on from it. -/
def Asks (chains : List Chain) (chain : Chain) : Prop := ∃ field ∈ chains, chain <+: field

instance (chains : List Chain) (chain : Chain) : Decidable (Asks chains chain) :=
  inferInstanceAs (Decidable (∃ field ∈ chains, chain <+: field))

theorem Asks.mono {chains more : List Chain} (h : Asks chains chain) (hs : chains ⊆ more) :
    Asks more chain := by
  obtain ⟨field, hfield, hprefix⟩ := h
  exact ⟨field, hs hfield, hprefix⟩

/-- What is written in an expression that goes on is asked for with the chain it goes on from,
or else passed. -/
theorem asks_or_passed_of_goesOn {base : Expr} {whole field : Chain} {chains : List Chain}
    (h : Part p inner (chained p chain) roots base) (hp : roots.lookup p = some [])
    (hw : chain? roots base = some whole) (hg : GoesOn base e) (hf : field ∈ chains)
    (hwf : whole <+: field) : Asks chains chain ∨ Passed p chain roots e := by
  rcases prefix_of_part h hp hw with hprefix | hposition
  · exact .inl ⟨field, hf, hprefix.trans hwf⟩
  · exact .inr ⟨roots, base, e, .self, hg, by rw [hw, Option.isSome_some], hposition⟩

/-- A chain that is written is asked for, unless it is passed. -/
theorem asks_or_passed (h : Part p inner (chained p chain) roots e)
    (hp : roots.lookup p = some []) : Asks (reads roots e) chain ∨ Passed p chain roots e := by
  induction h with
  | self => exact .inl ⟨chain, mem_reads_of_chain _ (chain?_chained hp), List.prefix_rfl⟩
  | @member roots base field h ih =>
    -- on a chain the base is not descended into, and the hypothesis about it says nothing
    cases hw : chain? roots base with
    | some whole =>
      have hreads : whole ++ [field] ∈ reads roots (.member base field) :=
        mem_reads_of_chain _ (by rw [chain?, hw, Option.map_some])
      exact asks_or_passed_of_goesOn h hp hw (.member field) hreads (List.prefix_append ..)
    | none =>
      have hreads : reads roots (.member base field) = reads roots base := by
        rw [reads, chain?, hw, Option.map_none]
      rw [hreads]
      exact (ih hp).imp_right (.of_part (.member .self))
  | @receiver roots base method arguments h ih =>
    rw [reads_call]
    cases hw : chain? roots base with
    | some whole =>
      exact asks_or_passed_of_goesOn h hp hw (.call method arguments) (List.mem_cons_self ..)
        List.prefix_rfl
    | none =>
      exact (ih hp).imp (·.mono (List.subset_append_left ..)) (.of_part (.receiver .self))
  | argument he hvalue _ ih =>
    rw [reads_call]
    refine (ih hp).imp (·.mono ?_) (.of_part (.argument he hvalue .self))
    rw [← readsOfArguments_of_value hvalue]
    exact List.Subset.trans (subset_readsOfArguments he) (List.subset_append_right ..)
  | @function roots base body method parameter arguments he hne _ ih =>
    -- the name stands for the row in the body as well, since the parameter is another
    have hunder : (under parameter (chain? roots base) roots).lookup p = some [] := by
      rw [lookup_under, if_neg hne.symm, hp]
    rw [reads_call]
    refine (ih hunder).imp (·.mono ?_) (.of_part (.function he hne .self))
    rw [← readsOfArguments_of_lambda]
    exact List.Subset.trans (subset_readsOfArguments he) (List.subset_append_right ..)
  | base _ ih =>
    exact (ih hp).imp (·.mono (List.subset_append_left ..)) (.of_part (.base .self))
  | position _ ih =>
    exact (ih hp).imp (·.mono (List.subset_append_right ..)) (.of_part (.position .self))
  | left _ ih =>
    exact (ih hp).imp (·.mono (List.subset_append_left ..)) (.of_part (.left .self))
  | right _ ih =>
    exact (ih hp).imp (·.mono (List.subset_append_right ..)) (.of_part (.right .self))
  | lambda hnot _ ih => exact (ih hp).imp_right (.of_part (.lambda hnot .self))
  | operand _ ih => exact (ih hp).imp_right (.of_part (.operand .self))
  | entry he _ ih =>
    exact (ih hp).imp (·.mono (subset_readsOfEntries he)) (.of_part (.entry he .self))
  | item he _ ih => exact (ih hp).imp (·.mono (subset_readsOfAll he)) (.of_part (.item he .self))

end Expr

/-! ### Selectors -/

open Projections.Expr

namespace Selector

/-- A chain from the row that is written in a selector is a prefix of one of its fields, unless
it is passed. -/
theorem fields_of_written (s : Selector) (chain : Chain) (hne : chain ≠ [])
    (h : Written s.parameter chain [(s.parameter, [])] s.body) :
    Asks s.toLambda.fields chain ∨ Passed s.parameter chain [(s.parameter, [])] s.body := by
  obtain ⟨inner, hpart⟩ := h
  refine (asks_or_passed hpart List.lookup_cons_self).imp_left ?_
  rintro ⟨field, hfield, hprefix⟩
  refine ⟨field, mem_fields_iff.2 ⟨hfield, ?_⟩, hprefix⟩
  rintro rfl
  exact hne (List.prefix_nil.1 hprefix)

/-- A chain in the position of an element, inside a function. -/
theorem fields_of_limit_in_position :
    let limit := Expr.member (.member (.name "p") "Limits") "Low"
    let s : Selector := ⟨"p", .call (.member (.name "p") "Comments") "Select"
      [.lambda ["c"] (.index (.member (.name "c") "Votes") limit)]⟩
    let chain : Chain := ["Limits", "Low"]
    chain ≠ [] ∧ Written s.parameter chain [(s.parameter, [])] s.body ∧
      (Asks s.toLambda.fields chain ∨ Passed s.parameter chain [(s.parameter, [])] s.body) ∧
      s.toLambda.fields = [["Comments"], ["Comments", "Votes"], ["Limits", "Low"]] := by
  intro limit s chain
  have hne : chain ≠ [] := List.cons_ne_nil _ _
  have hwritten : Written s.parameter chain [(s.parameter, [])] s.body :=
    ⟨_, .function (List.mem_singleton_self _) (by decide) (.position .self)⟩
  exact ⟨hne, hwritten, fields_of_written s chain hne hwritten, by decide⟩

/-- The position is asked for if the element is all that is taken, and not if the chain goes
on: then the fields are those for the first element. -/
theorem position_passed_by_member :
    let items := Expr.member (.name "p") "Items"
    let place := Expr.member (.name "p") "Place"
    let named (position : Expr) : Selector := ⟨"p", .member (.index items position) "Name"⟩
    (Selector.mk "p" (.index items place)).toLambda.fields = [["Items"], ["Place"]] ∧
      Written "p" ["Place"] [("p", [])] (named place).body ∧
      (named place).toLambda.fields = (named (.integer 0)).toLambda.fields ∧
      ¬ Asks (named place).toLambda.fields ["Place"] := by
  intro items place named
  have hchain : ∀ position, chain? [("p", [])] (.index items position) = some ["Items"] :=
    fun _ => rfl
  have hsame := (reads_of_same_chain (hchain place) (hchain (.integer 0))).1 "Name"
  exact ⟨by decide, ⟨_, .member (.position .self)⟩, congrArg (List.filter _) hsame, by decide⟩

end Selector

end Projections
