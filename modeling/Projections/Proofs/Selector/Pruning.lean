import Projections.Proofs.Row.Fields
import Projections.Proofs.Selector.Reads
import Projections.Proofs.Selector.Substitution

/-! Rows cut down to the fields a selector reads. Along a chain the cut row serves every
member and every element like the whole one, and at the end of a chain it is the whole one;
so the selector makes the same of both. -/

namespace Projections

/-! ### Pruned values -/

namespace Value

/-- What is left of the chains that go on with a name, whatever the case of ASCII letters. -/
def remainders (chains : List Chain) (key : String) : List Chain :=
  chains.filterMap fun
    | [] => none
    | name :: rest => if sameName name key then some rest else none

mutual

/-- A value without the fields to which no chain leads. Elements of an array stand where the
array stands, and all of a value is kept where a chain ends. -/
def prune : Value → List Chain → Value
  | .object fields, chains =>
    .object (if [] ∈ chains then fields else pruneFields fields chains)
  | .array items, chains => .array (if [] ∈ chains then items else pruneItems items chains)
  | value, _ => value

def pruneItems : List Value → List Chain → List Value
  | [], _ => []
  | item :: items, chains => item.prune chains :: pruneItems items chains

def pruneFields : List (String × Value) → List Chain → List (String × Value)
  | [], _ => []
  | (key, value) :: fields, chains =>
    if remainders chains key = [] then pruneFields fields chains
    else (key, value.prune (remainders chains key)) :: pruneFields fields chains

end

theorem prune_of_nil_mem {chains : List Chain} (h : [] ∈ chains) (v : Value) :
    v.prune chains = v := by
  cases v <;> simp [prune, h]

theorem pruneItems_eq_map (items : List Value) (chains : List Chain) :
    pruneItems items chains = items.map (·.prune chains) := by
  induction items with
  | nil => rfl
  | cons item rest ih => rw [pruneItems, ih, List.map_cons]

variable {chains : List Chain} {name : String} {rest : Chain}

theorem mem_remainders {key : String} (h : name :: rest ∈ chains) (hk : sameName name key = true) :
    rest ∈ remainders chains key :=
  List.mem_filterMap.2 ⟨_, h, if_pos hk⟩

theorem remainders_ne_nil {key : String} (h : name :: rest ∈ chains)
    (hk : sameName name key = true) : remainders chains key ≠ [] :=
  List.ne_nil_of_mem (mem_remainders h hk)

theorem get?_pruneFields (h : name :: rest ∈ chains) (fields : List (String × Value)) :
    Fields.get? name (pruneFields fields chains) =
      (Fields.get? name fields).map (·.prune (remainders chains name)) := by
  induction fields with
  | nil => rfl
  | cons entry fields ih =>
    obtain ⟨key, value⟩ := entry
    rw [pruneFields, Fields.get?_cons]
    split_ifs with hr hname hname
    · exact absurd (hname ▸ hr) (remainders_ne_nil h (sameName_refl name))
    · exact ih
    · rw [Fields.get?_cons, if_pos hname, hname, Option.map_some]
    · rw [Fields.get?_cons, if_neg hname, ih]

/-- The first field of that name, whatever its case, is kept. -/
theorem find?_pruneFields (h : name :: rest ∈ chains) (fields : List (String × Value)) :
    (pruneFields fields chains).find? (fun entry => sameName entry.1 name) =
      (fields.find? fun entry => sameName entry.1 name).map
        fun entry => (entry.1, entry.2.prune (remainders chains entry.1)) := by
  induction fields with
  | nil => rfl
  | cons entry fields ih =>
    obtain ⟨key, value⟩ := entry
    rw [pruneFields]
    cases hname : sameName key name with
    | true =>
      rw [if_neg (remainders_ne_nil h (sameName_comm .. ▸ hname))]
      simp only [List.find?_cons, hname, Option.map_some]
    | false =>
      split_ifs
      · simp only [List.find?_cons, hname, ih]
      · simp only [List.find?_cons, hname, ih]

/-- A field that a chain goes on with is found as before, pruned to the rest of that chain
among others. -/
theorem field?_pruneFields (h : name :: rest ∈ chains) (fields : List (String × Value)) :
    ∃ more, rest ∈ more ∧
      field? name (pruneFields fields chains) = (field? name fields).map (·.prune more) := by
  unfold field?
  rw [get?_pruneFields h, find?_pruneFields h]
  cases Fields.get? name fields with
  | some value => exact ⟨_, mem_remainders h (sameName_refl name), rfl⟩
  | none =>
    cases hfound : fields.find? fun entry => sameName entry.1 name with
    | none => exact ⟨[rest], List.mem_singleton.2 rfl, rfl⟩
    | some entry =>
      have hname := List.find?_some hfound
      exact ⟨_, mem_remainders h (sameName_comm .. ▸ hname), rfl⟩

theorem itemAt?_map (f : Value → Value) (items : List Value) (position : ℤ) :
    itemAt? (items.map f) position = (itemAt? items position).map f := by
  unfold itemAt?
  rw [List.length_map]
  split_ifs
  · exact List.getElem?_map
  · exact List.getElem?_map
  · rfl

end Value

/-! ### Outcomes along a chain -/

/-- The first outcome is the second, pruned to some chains with this one among them. -/
def Served (chain : Chain) (pruned whole : Except BindError Value) : Prop :=
  ∃ chains, chain ∈ chains ∧ pruned = whole.map (·.prune chains)

namespace Served

variable {chain rest : Chain} {pruned whole : Except BindError Value}

/-- At the end of a chain nothing is missing. -/
theorem eq (h : Served [] pruned whole) : pruned = whole := by
  obtain ⟨chains, hnil, rfl⟩ := h
  cases whole with
  | error _ => rfl
  | ok v => exact congrArg Except.ok (v.prune_of_nil_mem hnil)

theorem refl (chain : Chain) (outcome : Except BindError Value) :
    Served chain outcome outcome := by
  refine ⟨[chain, []], List.mem_cons_self .., ?_⟩
  cases outcome with
  | error _ => rfl
  | ok v => exact congrArg Except.ok (v.prune_of_nil_mem (by simp)).symm

theorem member {field : String} (h : Served (field :: rest) pruned whole) :
    Served rest (pruned >>= (·.member field)) (whole >>= (·.member field)) := by
  obtain ⟨chains, hmem, rfl⟩ := h
  cases whole with
  | error e => exact refl rest (.error e)
  | ok v =>
    change Served rest ((v.prune chains).member field) (v.member field)
    by_cases hnil : [] ∈ chains
    · rw [v.prune_of_nil_mem hnil]
      exact refl rest _
    · cases v with
      | object fields =>
        obtain ⟨more, hrest, hfield⟩ := Value.field?_pruneFields hmem fields
        refine ⟨more, hrest, ?_⟩
        rw [Value.prune, if_neg hnil, Value.member, Value.member, hfield]
        cases Value.field? field fields <;> rfl
      | array items =>
        have hsame : ((Value.array items).prune chains).member field =
            (Value.array items).member field := by
          rw [Value.prune, if_neg hnil, Value.pruneItems_eq_map, Value.member, Value.member,
            List.length_map]
        rw [hsame]
        exact refl rest _
      | null | boolean _ | float _ | integer _ | string _ => exact refl rest _

theorem item (n : Int64) (h : Served chain pruned whole) :
    Served chain (pruned >>= (·.item (.integer n))) (whole >>= (·.item (.integer n))) := by
  obtain ⟨chains, hmem, rfl⟩ := h
  cases whole with
  | error e => exact refl chain (.error e)
  | ok v =>
    change Served chain ((v.prune chains).item (.integer n)) (v.item (.integer n))
    by_cases hnil : [] ∈ chains
    · rw [v.prune_of_nil_mem hnil]
      exact refl chain _
    · cases v with
      | array items =>
        refine ⟨chains, hmem, ?_⟩
        rw [Value.prune, if_neg hnil, Value.pruneItems_eq_map, Value.item, Value.item,
          Value.itemAt?_map]
        cases Value.itemAt? items n.toInt <;> rfl
      | object fields => exact refl chain _
      | null | boolean _ | float _ | integer _ | string _ => exact refl chain _

end Served

/-! ### Selectors whose reads are listed -/

namespace Expr

mutual

/-- Elements are taken only at integers that are written down. -/
def IntegerIndices : Expr → Prop
  | .member base _ => base.IntegerIndices
  | .index base position => base.IntegerIndices ∧ ∃ n, position = .integer n
  | .call base _ arguments => base.IntegerIndices ∧ AllIntegerIndices arguments
  | .lambda _ body => body.IntegerIndices
  | .not operand => operand.IntegerIndices
  | .binary _ left right => left.IntegerIndices ∧ right.IntegerIndices
  | .object entries => EntriesIntegerIndices entries
  | .array items => AllIntegerIndices items
  | .float _ | .integer _ | .string _ | .boolean _ | .null | .name _ => True

def AllIntegerIndices : List Expr → Prop
  | [] => True
  | e :: es => e.IntegerIndices ∧ AllIntegerIndices es

def EntriesIntegerIndices : List (String × Expr) → Prop
  | [] => True
  | (_, e) :: es => e.IntegerIndices ∧ EntriesIntegerIndices es

end

mutual

/-- A name occurs only where a member of it is read, or where a parameter hides it. -/
def OnlyMembers (p : String) : Expr → Prop
  | .name n => n ≠ p
  | .member base _ => base = .name p ∨ base.OnlyMembers p
  | .index base position => base.OnlyMembers p ∧ position.OnlyMembers p
  | .call base _ arguments => base.OnlyMembers p ∧ AllOnlyMembers p arguments
  | .lambda parameters body => p ∈ parameters ∨ body.OnlyMembers p
  | .not operand => operand.OnlyMembers p
  | .binary _ left right => left.OnlyMembers p ∧ right.OnlyMembers p
  | .object entries => EntriesOnlyMembers p entries
  | .array items => AllOnlyMembers p items
  | .float _ | .integer _ | .string _ | .boolean _ | .null => True

def AllOnlyMembers (p : String) : List Expr → Prop
  | [] => True
  | e :: es => e.OnlyMembers p ∧ AllOnlyMembers p es

def EntriesOnlyMembers (p : String) : List (String × Expr) → Prop
  | [] => True
  | (_, e) :: es => e.OnlyMembers p ∧ EntriesOnlyMembers p es

end

/-- Two scopes that differ in the row: one has it pruned to the chains that are kept. Every
other name in force stands for a place below the row, and reads alike in both. -/
structure Narrowed (p : String) (kept : List Chain) (roots : Roots) (pruned whole : Scope) :
    Prop where
  root : roots.lookup p = some []
  below : ∀ n chain, n ≠ p → roots.lookup n = some chain → chain ≠ []
  row : ∀ chain ∈ kept, Served chain ((Expr.name p).eval pruned) ((Expr.name p).eval whole)
  others : ∀ n, n ≠ p → (Expr.name n).eval pruned = (Expr.name n).eval whole

variable {p : String} {kept : List Chain} {roots : Roots} {pruned whole : Scope}

namespace Narrowed

theorem alone (p : String) (kept : List Chain) (row : Value) :
    Narrowed p kept [(p, [])] [(p, row.prune kept)] [(p, row)] where
  root := List.lookup_cons_self
  below n chain hn h := by
    rw [List.lookup_cons, beq_false_of_ne hn] at h
    cases h
  row chain hchain := by
    refine ⟨kept, hchain, ?_⟩
    rw [eval_name_cons, eval_name_cons, if_pos rfl, if_pos rfl]
    rfl
  others n hn := by
    rw [eval_name_cons, eval_name_cons, if_neg hn, if_neg hn]

/-- A parameter that does not hide the row is bound alike, to elements of a chain or to
something else. -/
theorem bound {parameter : String} {chain : Option Chain} (item : Value) (hp : parameter ≠ p)
    (hc : ∀ c ∈ chain, c ≠ []) (h : Narrowed p kept roots pruned whole) :
    Narrowed p kept (under parameter chain roots) ((parameter, item) :: pruned)
      ((parameter, item) :: whole) where
  root := by
    rw [lookup_under, if_neg hp.symm]
    exact h.root
  below n c hn hlookup := by
    rw [lookup_under] at hlookup
    split_ifs at hlookup
    · cases chain with
      | none => exact h.below n c hn hlookup
      | some d => exact hc c hlookup
    · exact h.below n c hn hlookup
  row chain hchain := by
    rw [eval_name_cons, eval_name_cons, if_neg hp.symm, if_neg hp.symm]
    exact h.row chain hchain
  others n hn := by
    rw [eval_name_cons, eval_name_cons, h.others n hn]

end Narrowed

/-! ### Chains -/

/-- Where the row is only asked for members, no chain ends at the row. -/
theorem chain_ne_nil (h : Narrowed p kept roots pruned whole) : ∀ (e : Expr) {chain : Chain},
    e.OnlyMembers p → chain? roots e = some chain → chain ≠ []
  | .name n, chain, ho, hc => h.below n chain ho hc
  | .member base field, _, _, hc => by
    obtain ⟨front, -, rfl⟩ := Option.map_eq_some_iff.1 hc
    exact List.append_ne_nil_of_right_ne_nil _ (List.cons_ne_nil _ _)
  | .index base _, _, ho, hc => chain_ne_nil h base ho.1 hc

/-- What stands for a chain evaluates alike, as far as the kept chains go on from there. -/
theorem served_of_chain (h : Narrowed p kept roots pruned whole) : ∀ (e : Expr)
    {chain rest : Chain}, e.IntegerIndices → chain? roots e = some chain →
      chain ++ rest ∈ kept → Served rest (e.eval pruned) (e.eval whole)
  | .name n, chain, rest, _, hc, hk => by
    by_cases hn : n = p
    · subst hn
      obtain rfl : chain = [] := Option.some.inj (hc.symm.trans h.root)
      exact h.row rest hk
    · rw [h.others n hn]
      exact .refl rest _
  | .member base field, _, rest, hi, hc, hk => by
    obtain ⟨front, hfront, rfl⟩ := Option.map_eq_some_iff.1 hc
    rw [List.append_assoc] at hk
    exact (served_of_chain h base hi hfront hk).member
  | .index base _, _, _, ⟨hi, n, rfl⟩, hc, hk => (served_of_chain h base hi hc hk).item n

theorem eval_eq_of_chain (h : Narrowed p kept roots pruned whole) {e : Expr} {chain : Chain}
    (hi : e.IntegerIndices) (hc : chain? roots e = some chain) (hk : chain ∈ kept) :
    e.eval pruned = e.eval whole :=
  (served_of_chain h e hi hc (by rwa [List.append_nil])).eq

/-! ### Evaluation -/

/-- All chains but the row's own are kept. -/
def Kept (kept chains : List Chain) : Prop := ∀ chain ∈ chains, chain ≠ [] → chain ∈ kept

theorem Kept.of_append {first second : List Chain} (h : Kept kept (first ++ second)) :
    Kept kept first ∧ Kept kept second :=
  ⟨fun c hc => h c (List.mem_append_left _ hc), fun c hc => h c (List.mem_append_right _ hc)⟩

mutual

theorem eval_narrowed : ∀ (e : Expr) {roots : Roots} {pruned whole : Scope}, e.IntegerIndices →
    e.OnlyMembers p → Kept kept (reads roots e) → Narrowed p kept roots pruned whole →
      e.eval pruned = e.eval whole
  | .name n, _, _, _, _, ho, _, h => h.others n ho
  | .member base field, roots, pruned, whole, hi, ho, hk, h => by
    rw [reads] at hk
    split at hk
    · next chain hc =>
      obtain ⟨front, -, rfl⟩ := Option.map_eq_some_iff.1 hc
      have hmem := hk _ (List.mem_singleton.2 rfl)
        (List.append_ne_nil_of_right_ne_nil _ (List.cons_ne_nil _ _))
      exact eval_eq_of_chain h hi hc hmem
    · next hc =>
      have hbase : base ≠ .name p := by
        rintro rfl
        rw [chain?, chain?, h.root] at hc
        cases hc
      rw [eval, eval, eval_narrowed base hi (ho.resolve_left hbase) hk h]
  | .index base position, _, _, _, ⟨hi, n, hn⟩, ho, hk, h => by
    rw [reads] at hk
    rw [eval, eval, eval_narrowed base hi ho.1 hk.of_append.1 h, hn]
    rfl
  | .call base method arguments, roots, pruned, whole, hi, ho, hk, h => by
    rw [reads] at hk
    split at hk
    · next chain hc =>
      have hne := chain_ne_nil h base ho.1 hc
      have hbase := eval_eq_of_chain h hi.1 hc (hk chain (List.mem_cons_self ..) hne)
      have harguments := prepare_narrowed arguments method hi.2 ho.2
        (fun c hm => hk c (List.mem_cons_of_mem _ hm)) (by rintro _ ⟨⟩; exact hne) h
      rw [eval, eval, hbase, harguments]
    · next hc =>
      obtain ⟨hbase, harguments⟩ := hk.of_append
      rw [eval, eval, eval_narrowed base hi.1 ho.1 hbase h,
        prepare_narrowed arguments method hi.2 ho.2 harguments nofun h]
  | .lambda _ _, _, _, _, _, _, _, _ => rfl
  | .not operand, _, _, _, hi, ho, hk, h => by
    rw [eval, eval, eval_narrowed operand hi ho hk h]
  | .binary op left right, _, _, _, hi, ho, hk, h => by
    obtain ⟨hleft, hright⟩ := hk.of_append
    rw [eval, eval, eval_narrowed left hi.1 ho.1 hleft h, eval_narrowed right hi.2 ho.2 hright h]
  | .object entries, _, _, _, hi, ho, hk, h => by
    rw [eval, eval, evalEntries_narrowed entries hi ho hk h]
  | .array items, _, _, _, hi, ho, hk, h => by
    rw [eval, eval, evalItems_narrowed items hi ho hk h]
  | .float _, _, _, _, _, _, _, _ | .integer _, _, _, _, _, _, _, _
  | .string _, _, _, _, _, _, _, _ | .boolean _, _, _, _, _, _, _, _
  | .null, _, _, _, _, _, _, _ => rfl

theorem evalItems_narrowed : ∀ (es : List Expr) {roots : Roots} {pruned whole : Scope},
    AllIntegerIndices es → AllOnlyMembers p es → Kept kept (readsOfAll roots es) →
      Narrowed p kept roots pruned whole → evalItems es pruned = evalItems es whole
  | [], _, _, _, _, _, _, _ => rfl
  | e :: es, _, _, _, hi, ho, hk, h => by
    obtain ⟨he, hes⟩ := hk.of_append
    rw [evalItems, evalItems, eval_narrowed e hi.1 ho.1 he h, evalItems_narrowed es hi.2 ho.2 hes h]

theorem evalEntries_narrowed : ∀ (entries : List (String × Expr)) {roots : Roots}
    {pruned whole : Scope}, EntriesIntegerIndices entries → EntriesOnlyMembers p entries →
      Kept kept (readsOfEntries roots entries) → Narrowed p kept roots pruned whole →
        evalEntries entries pruned = evalEntries entries whole
  | [], _, _, _, _, _, _, _ => rfl
  | (_, e) :: es, _, _, _, hi, ho, hk, h => by
    obtain ⟨he, hes⟩ := hk.of_append
    rw [evalEntries, evalEntries, eval_narrowed e hi.1 ho.1 he h,
      evalEntries_narrowed es hi.2 ho.2 hes h]

/-- An argument makes the same of an element, whether its parameter stands for the elements
of a chain, for something else, or hides the row. -/
theorem applied_narrowed : ∀ (e : Expr) (method : String) {roots : Roots} {chain : Option Chain}
    {pruned whole : Scope}, e.IntegerIndices → e.OnlyMembers p →
      Kept kept (readsOfArguments roots chain [e]) → (∀ c ∈ chain, c ≠ []) →
        Narrowed p kept roots pruned whole →
          ∀ item, e.applied method pruned item = e.applied method whole item
  | .lambda [parameter] body, _, roots, chain, pruned, whole, hi, ho, hk, hc, h, item => by
    rw [applied, applied]
    by_cases hp : parameter = p
    · -- the row is hidden, so the scopes read alike
      refine eval_congr Congruence.eq body (.bound Congruence.eq item fun n _ hn => ?_)
      exact h.others n (hp ▸ hn)
    · have hbody := ho.resolve_left (by simpa using Ne.symm hp)
      rw [readsOfArguments_of_lambda] at hk
      exact eval_narrowed body hi hbody hk (h.bound item hp hc)
  | .lambda [] _, _, _, _, _, _, _, _, _, _, _, _
  | .lambda (_ :: _ :: _) _, _, _, _, _, _, _, _, _, _, _, _ => rfl
  | .name _, _, _, _, _, _, _, _, _, _, _, _ | .member _ _, _, _, _, _, _, _, _, _, _, _, _
  | .index _ _, _, _, _, _, _, _, _, _, _, _, _ | .call _ _ _, _, _, _, _, _, _, _, _, _, _, _
  | .not _, _, _, _, _, _, _, _, _, _, _, _ | .binary _ _ _, _, _, _, _, _, _, _, _, _, _, _
  | .object _, _, _, _, _, _, _, _, _, _, _, _ | .array _, _, _, _, _, _, _, _, _, _, _, _
  | .float _, _, _, _, _, _, _, _, _, _, _, _ | .integer _, _, _, _, _, _, _, _, _, _, _, _
  | .string _, _, _, _, _, _, _, _, _, _, _, _ | .boolean _, _, _, _, _, _, _, _, _, _, _, _
  | .null, _, _, _, _, _, _, _, _, _, _, _ => rfl

theorem prepare_narrowed : ∀ (es : List Expr) (method : String) {roots : Roots}
    {chain : Option Chain} {pruned whole : Scope}, AllIntegerIndices es → AllOnlyMembers p es →
      Kept kept (readsOfArguments roots chain es) → (∀ c ∈ chain, c ≠ []) →
        Narrowed p kept roots pruned whole → prepare es method pruned = prepare es method whole
  | [], _, _, _, _, _, _, _, _, _, _ => rfl
  | e :: es, method, roots, chain, pruned, whole, hi, ho, hk, hc, h => by
    rw [readsOfArguments_cons] at hk
    obtain ⟨he, hes⟩ := hk.of_append
    have hvalue : e.eval pruned = e.eval whole := by
      by_cases hlambda : ∃ parameter body, e = .lambda [parameter] body
      · obtain ⟨parameter, body, rfl⟩ := hlambda
        rfl
      · push Not at hlambda
        rw [readsOfArguments_of_value hlambda] at he
        exact eval_narrowed e hi.1 ho.1 he h
    have happly := applied_narrowed e method hi.1 ho.1 he hc h
    rw [prepare, prepare, hvalue, funext happly, prepare_narrowed es method hi.2 ho.2 hes hc h]

end

end Expr

/-! ### Selectors -/

/-- A selector reads from its row only what its fields name: it makes the same of the row
pruned to them. -/
theorem Selector.bind_prune (s : Selector) (hi : s.body.IntegerIndices)
    (hp : s.body.OnlyMembers s.parameter) (row : Value) :
    s.toLambda.bind (row.prune s.toLambda.fields) = s.toLambda.bind row := by
  refine Expr.eval_narrowed s.body hi hp (fun chain hc hne => ?_) (.alone s.parameter _ row)
  exact List.mem_filter.2 ⟨hc, by simpa using hne⟩

/-- The author's other fields, the second half of a tag and the title are not read. -/
theorem Selector.bind_prune_of_members :
    let s : Selector := ⟨"p", .binary .add (.member (.member (.name "p") "Author") "Name")
      (.member (.index (.member (.name "p") "Tags") (.integer 0)) "Label")⟩
    let row : Value := .object
      [("Tags", .array [.object [("Id", .integer 1), ("Label", .string "b")]]),
        ("Title", .string "t"), ("author", .object [("Id", .integer 2), ("Name", .string "a")])]
    s.body.IntegerIndices ∧ s.body.OnlyMembers s.parameter ∧
      row.prune s.toLambda.fields = .object
        [("Tags", .array [.object [("Label", .string "b")]]),
          ("author", .object [("Name", .string "a")])] ∧
      s.toLambda.bind (row.prune s.toLambda.fields) = s.toLambda.bind row := by
  intro s row
  have hi : s.body.IntegerIndices := ⟨trivial, trivial, 0, rfl⟩
  have hp : s.body.OnlyMembers "p" := ⟨.inr (.inl rfl), .inr ⟨.inl rfl, trivial⟩⟩
  have hfields : s.toLambda.fields = [["Author", "Name"], ["Tags", "Label"]] := by decide +kernel
  have hrow : ["Tags", "Title", "author"].map
      (Value.remainders [["Author", "Name"], ["Tags", "Label"]]) =
        [[["Label"]], [], [["Name"]]] := by
    decide +kernel
  have hauthor : ["Id", "Name"].map (Value.remainders [["Name"]]) = [[], [[]]] := by
    decide +kernel
  have htag : ["Id", "Label"].map (Value.remainders [["Label"]]) = [[], [[]]] := by
    decide +kernel
  simp only [List.map_cons, List.map_nil, List.cons.injEq, and_true] at hrow hauthor htag
  refine ⟨hi, hp, ?_, Selector.bind_prune s hi hp row⟩
  simp [row, hfields, Value.prune, Value.pruneFields, Value.pruneItems, hrow, hauthor, htag]

end Projections
