import Mathlib.Data.List.Induction
import Mathlib.Data.List.Nodup
import Projections.Proofs.Document.Selection

/-! What a selection tree has of the chains that were inserted. Its paths from the top are the
beginnings of those chains, siblings differ and stand in the order in which they came in, so the
order and the repetition of the chains decide on nothing but the order of siblings. -/

namespace Projections.Selection

/-! ### Paths from the top -/

/-- The siblings at the end of a path: the fields right below the field that the heads lead to. -/
inductive Level : (path : List FieldHead) → (siblings fields : Selection) → Prop
  | top {fields : Selection} : Level [] fields fields
  | child {head : FieldHead} {path : List FieldHead} {siblings children fields : Selection} :
      .mk head children ∈ fields → Level path siblings children →
      Level (head :: path) siblings fields

/-- The heads lead from the top to a field. -/
def Reaches (path : List FieldHead) (fields : Selection) : Prop :=
  ∃ siblings, Level path siblings fields

theorem reaches_cons {head : FieldHead} {path : List FieldHead} {fields : Selection} :
    Reaches (head :: path) fields ↔
      ∃ children, .mk head children ∈ fields ∧ Reaches path children := by
  constructor
  · rintro ⟨siblings, hlevel⟩
    cases hlevel with
    | child hmem hlevel => exact ⟨_, hmem, siblings, hlevel⟩
  · rintro ⟨children, hmem, siblings, hlevel⟩
    exact ⟨siblings, .child hmem hlevel⟩

/-! ### What is left of chains -/

/-- The chains that begin with a path, each without it. -/
def after (path : List FieldHead) (chains : List (List FieldHead)) : List (List FieldHead) :=
  chains.filterMap (·.dropPrefix? path)

variable {path rest : List FieldHead} {chains : List (List FieldHead)} {head : FieldHead}

theorem dropPrefix?_eq_some (chain : List FieldHead) :
    chain.dropPrefix? path = some rest ↔ chain = path ++ rest := by
  simp [List.dropPrefix?_eq_some_iff]

theorem mem_after : rest ∈ after path chains ↔ path ++ rest ∈ chains := by
  simp [after, dropPrefix?_eq_some]

theorem after_ne_nil_iff : after path chains ≠ [] ↔ ∃ chain ∈ chains, path <+: chain := by
  constructor
  · intro h
    obtain ⟨rest, hmem⟩ := List.exists_mem_of_ne_nil _ h
    exact ⟨_, mem_after.1 hmem, List.prefix_append ..⟩
  · rintro ⟨_, hmem, rest, rfl⟩
    exact List.ne_nil_of_mem (mem_after.2 hmem)

@[simp] theorem after_nil (path : List FieldHead) : after path [] = [] := rfl

theorem after_top (chains : List (List FieldHead)) : after [] chains = chains := by
  simp [after]

theorem after_append (path more : List FieldHead) (chains : List (List FieldHead)) :
    after (path ++ more) chains = after more (after path chains) := by
  rw [after, after, after, List.filterMap_filterMap]
  congr 1
  funext chain
  ext rest
  simp [Option.bind_eq_some_iff, dropPrefix?_eq_some, List.append_assoc]

theorem after_concat (path : List FieldHead) (chains : List (List FieldHead))
    (chain : List FieldHead) :
    after path (chains ++ [chain]) = after path chains ++ (chain.dropPrefix? path).toList := by
  rw [after, List.filterMap_append]
  cases h : chain.dropPrefix? path <;> simp [after, h]

/-- A chain leaves something below its first head and nothing below another one. -/
theorem after_concat_cons (head first : FieldHead) (rest : List FieldHead)
    (chains : List (List FieldHead)) :
    after [head] (chains ++ [first :: rest]) =
      if first = head then after [head] chains ++ [rest] else after [head] chains := by
  by_cases h : first = head <;> simp [after_concat, List.dropPrefix?, h]

/-! ### One level -/

theorem ofChains_concat (chains : List (List FieldHead)) (chain : List FieldHead) :
    ofChains (chains ++ [chain]) = insert chain (ofChains chains) := by
  rw [ofChains, List.foldl_append]
  rfl

/-- Below a head stands what is left of the chains that start with it. -/
theorem below?_ofChains (head : FieldHead) (chains : List (List FieldHead)) :
    below? head (ofChains chains) =
      if after [head] chains = [] then none else some (ofChains (after [head] chains)) := by
  induction chains using List.reverseRecOn with
  | nil => rfl
  | append_singleton chains chain ih =>
    rw [ofChains_concat]
    cases chain with
    | nil => simpa [insert, after_concat, List.dropPrefix?] using ih
    | cons first rest =>
      have hchildren :
          (below? head (ofChains chains)).getD [] = ofChains (after [head] chains) := by
        rw [ih]
        split_ifs with hnone
        · rw [hnone]
          rfl
        · rfl
      rw [insert, below?_update, after_concat_cons]
      by_cases hfirst : first = head
      · subst hfirst
        simp [hchildren, ofChains_concat]
      · simpa [hfirst] using ih

/-- What siblings differ in. -/
def heads (fields : Selection) : List FieldHead := fields.map Field.head

theorem heads_cons (head : FieldHead) (children fields : Selection) :
    heads (.mk head children :: fields) = head :: heads fields := rfl

theorem heads_update (head : FieldHead) (change : Selection → Selection) (fields : Selection) :
    heads (update head change fields) =
      if head ∈ heads fields then heads fields else heads fields ++ [head] := by
  induction fields with
  | nil => rfl
  | cons field fields ih =>
    obtain ⟨first, children⟩ := field
    rw [update_cons, heads_cons]
    by_cases hfirst : first = head
    · simp [hfirst, heads_cons]
    · rw [if_neg hfirst, heads_cons, ih]
      simp only [List.mem_cons, Ne.symm hfirst, false_or]
      split_ifs <;> rfl

theorem mem_heads_of_mem {head : FieldHead} {children fields : Selection}
    (h : .mk head children ∈ fields) : head ∈ heads fields :=
  List.mem_map_of_mem h

/-- Where siblings differ, a head leads to one field. -/
theorem below?_eq_some_iff {head : FieldHead} {children fields : Selection}
    (h : (heads fields).Nodup) :
    below? head fields = some children ↔ .mk head children ∈ fields := by
  induction fields with
  | nil => simp [below?]
  | cons field fields ih =>
    obtain ⟨first, below⟩ := field
    rw [heads_cons, List.nodup_cons] at h
    rw [below?_cons, List.mem_cons, Field.mk.injEq]
    by_cases hfirst : first = head
    · subst hfirst
      have hnone : .mk first children ∉ fields := fun hmem => h.1 (mem_heads_of_mem hmem)
      simp [hnone, eq_comm]
    · simp [hfirst, Ne.symm hfirst, ih h.2]

theorem nodup_heads_insert (chain : List FieldHead) {fields : Selection}
    (h : (heads fields).Nodup) : (heads (insert chain fields)).Nodup := by
  cases chain with
  | nil => exact h
  | cons head rest =>
    rw [insert, heads_update]
    split_ifs with hmem
    · exact h
    · refine List.nodup_append.2 ⟨h, List.nodup_singleton _, fun first hfirst last hlast => ?_⟩
      rw [List.mem_singleton.1 hlast]
      exact ne_of_mem_of_not_mem hfirst hmem

theorem nodup_heads_ofChains (chains : List (List FieldHead)) :
    (heads (ofChains chains)).Nodup := by
  induction chains using List.reverseRecOn with
  | nil => exact List.nodup_nil
  | append_singleton chains chain ih =>
    rw [ofChains_concat]
    exact nodup_heads_insert chain ih

/-- A field has below it what is left of the chains that start with its head. -/
theorem mem_ofChains {children : Selection} :
    .mk head children ∈ ofChains chains ↔
      after [head] chains ≠ [] ∧ children = ofChains (after [head] chains) := by
  rw [← below?_eq_some_iff (nodup_heads_ofChains chains), below?_ofChains]
  split_ifs with h
  · simp [h]
  · simp [h, eq_comm]

theorem mem_heads_ofChains : head ∈ heads (ofChains chains) ↔ after [head] chains ≠ [] := by
  constructor
  · intro h
    obtain ⟨⟨first, children⟩, hmem, rfl⟩ := List.mem_map.1 h
    exact (mem_ofChains.1 hmem).1
  · intro h
    exact mem_heads_of_mem (mem_ofChains.2 ⟨h, rfl⟩)

/-! ### All levels -/

/-- The siblings at the end of a path are the selection of what is left of the chains there. -/
theorem level_ofChains {siblings : Selection} :
    Level path siblings (ofChains chains) ↔
      (path = [] ∨ after path chains ≠ []) ∧ siblings = ofChains (after path chains) := by
  induction path generalizing chains with
  | nil =>
    rw [after_top]
    constructor
    · rintro ⟨⟩
      exact ⟨.inl rfl, rfl⟩
    · rintro ⟨-, rfl⟩
      exact .top
  | cons head path ih =>
    rw [show head :: path = [head] ++ path from rfl, after_append]
    constructor
    · intro h
      cases h with
      | child hmem hlevel =>
        obtain ⟨hne, rfl⟩ := mem_ofChains.1 hmem
        obtain ⟨hpath, hsiblings⟩ := ih.1 hlevel
        refine ⟨.inr ?_, hsiblings⟩
        rcases hpath with rfl | hpath
        · rwa [after_top]
        · exact hpath
    · rintro ⟨hpath, hsiblings⟩
      have hne := hpath.resolve_left (List.cons_ne_nil _ _)
      have hhead : after [head] chains ≠ [] := fun hnil => hne (by rw [hnil, after_nil])
      exact .child (mem_ofChains.2 ⟨hhead, rfl⟩) (ih.2 ⟨.inr hne, hsiblings⟩)

/-- The paths of a selection are the beginnings of its chains. -/
theorem reaches_ofChains (hp : path ≠ []) :
    Reaches path (ofChains chains) ↔ ∃ chain ∈ chains, path <+: chain := by
  rw [← after_ne_nil_iff]
  constructor
  · rintro ⟨siblings, h⟩
    exact (level_ofChains.1 h).1.resolve_left hp
  · intro h
    exact ⟨_, level_ofChains.2 ⟨.inr h, rfl⟩⟩

/-! ### The order of siblings -/

/-- There was a time when some chain began with the one path and none with the other. -/
def Sooner (chains : List (List FieldHead)) (one other : List FieldHead) : Prop :=
  ∃ front, front <+: chains ∧ after one front ≠ [] ∧ after other front = []

theorem Sooner.mono {one other : List FieldHead} {more : List (List FieldHead)}
    (h : Sooner chains one other) (hm : chains <+: more) : Sooner more one other := by
  obtain ⟨front, hfront, hthere, hnot⟩ := h
  exact ⟨front, hfront.trans hm, hthere, hnot⟩

theorem Sooner.of_after {one other : List FieldHead} (h : Sooner (after path chains) one other) :
    Sooner chains (path ++ one) (path ++ other) := by
  obtain ⟨_, hfront, hthere, hnot⟩ := h
  obtain ⟨front, hprefix, rfl⟩ := List.prefix_filterMap_iff.1 hfront
  refine ⟨front, hprefix, ?_, ?_⟩
  · rwa [after_append]
  · rwa [after_append]

theorem pairwise_heads_ofChains (chains : List (List FieldHead)) :
    (heads (ofChains chains)).Pairwise fun a b => Sooner chains [a] [b] := by
  induction chains using List.reverseRecOn with
  | nil => exact .nil
  | append_singleton chains chain ih =>
    have hmore : chains <+: chains ++ [chain] := List.prefix_append ..
    have hkept := ih.imp fun h => Sooner.mono h hmore
    rw [ofChains_concat]
    cases chain with
    | nil => exact hkept
    | cons head rest =>
      rw [insert, heads_update]
      split_ifs with hmem
      · exact hkept
      · refine List.pairwise_append.2 ⟨hkept, List.pairwise_singleton _ _, ?_⟩
        intro first hfirst last hlast
        rw [List.mem_singleton.1 hlast]
        refine ⟨chains, hmore, mem_heads_ofChains.1 hfirst, ?_⟩
        by_contra hne
        exact hmem (mem_heads_ofChains.2 hne)

/-- The number of the first chain that begins with a path. -/
def firstWith (path : List FieldHead) (chains : List (List FieldHead)) : Nat :=
  chains.findIdx path.isPrefixOf

theorem Sooner.firstWith_lt {one other : List FieldHead} (h : Sooner chains one other) :
    firstWith one chains < firstWith other chains := by
  obtain ⟨front, ⟨back, rfl⟩, hthere, hnot⟩ := h
  have hone : front.findIdx one.isPrefixOf < front.length := by
    obtain ⟨chain, hmem, hp⟩ := after_ne_nil_iff.1 hthere
    exact List.findIdx_lt_length_of_exists ⟨chain, hmem, List.isPrefixOf_iff_prefix.2 hp⟩
  have hother : front.findIdx other.isPrefixOf = front.length := by
    refine List.findIdx_eq_length.2 fun chain hmem => ?_
    by_contra hp
    rw [Bool.not_eq_false, List.isPrefixOf_iff_prefix] at hp
    exact after_ne_nil_iff.2 ⟨chain, hmem, hp⟩ hnot
  rw [firstWith, firstWith, List.findIdx_append, List.findIdx_append, if_pos hone,
    if_neg (Nat.not_lt.2 hother.ge)]
  omega

/-- Siblings at the end of a path stand in the order in which they first came in. -/
theorem pairwise_of_level {siblings : Selection} (h : Level path siblings (ofChains chains)) :
    (heads siblings).Pairwise fun a b =>
      firstWith (path ++ [a]) chains < firstWith (path ++ [b]) chains := by
  obtain ⟨-, rfl⟩ := level_ofChains.1 h
  exact (pairwise_heads_ofChains _).imp fun hsooner => hsooner.of_after.firstWith_lt

/-! ### The order of the chains -/

/-- Trees that are equal up to the order of siblings, at any depth. -/
inductive Reordered : Selection → Selection → Prop
  | nil : Reordered [] []
  | cons {head : FieldHead} {children others fields rest : Selection} :
      Reordered children others → Reordered fields rest →
      Reordered (.mk head children :: fields) (.mk head others :: rest)
  | swap {first second : Field} {fields : Selection} :
      Reordered (first :: second :: fields) (second :: first :: fields)
  | trans {fields others rest : Selection} :
      Reordered fields others → Reordered others rest → Reordered fields rest

theorem Reordered.refl : (fields : Selection) → Reordered fields fields
  | [] => .nil
  | .mk _ children :: fields => .cons (refl children) (refl fields)

theorem Reordered.of_perm {fields others : Selection} (h : fields.Perm others) :
    Reordered fields others := by
  induction h with
  | nil => exact .nil
  | cons field _ ih =>
    obtain ⟨head, children⟩ := field
    exact .cons (.refl children) ih
  | swap => exact .swap
  | trans _ _ ih ih' => exact .trans ih ih'

/-- Siblings differ at every level. -/
def Distinct (fields : Selection) : Prop :=
  ∀ path siblings, Level path siblings fields → (heads siblings).Nodup

theorem Distinct.children {children fields : Selection} (h : Distinct fields)
    (hmem : .mk head children ∈ fields) : Distinct children :=
  fun path siblings hlevel => h (head :: path) siblings (.child hmem hlevel)

theorem Distinct.sublist {fields rest : Selection} (h : Distinct fields)
    (hs : rest.Sublist fields) : Distinct rest := by
  intro path siblings hlevel
  cases hlevel with
  | top => exact (h [] fields .top).sublist (hs.map Field.head)
  | child hmem hlevel => exact h _ siblings (.child (hs.mem hmem) hlevel)

theorem reaches_children {children fields : Selection} (h : (heads fields).Nodup)
    (hmem : .mk head children ∈ fields) :
    Reaches (head :: path) fields ↔ Reaches path children := by
  rw [reaches_cons]
  constructor
  · rintro ⟨others, hothers, hreaches⟩
    rw [← below?_eq_some_iff h] at hmem hothers
    rwa [Option.some.inj (hmem.symm.trans hothers)]
  · intro hreaches
    exact ⟨children, hmem, hreaches⟩

/-- Without one field the paths are those that do not start with its head. -/
theorem reaches_without {first : FieldHead} {children front back : Selection}
    (h : (heads (front ++ .mk head children :: back)).Nodup) :
    Reaches (first :: path) (front ++ back) ↔
      first ≠ head ∧ Reaches (first :: path) (front ++ .mk head children :: back) := by
  rw [heads, List.map_append, List.map_cons, List.nodup_middle, List.nodup_cons,
    ← List.map_append] at h
  rw [reaches_cons, reaches_cons]
  constructor
  · rintro ⟨below, hmem, hreaches⟩
    refine ⟨fun heq => h.1 (heq ▸ mem_heads_of_mem hmem), below, ?_, hreaches⟩
    exact ((List.sublist_cons_self _ back).append_left front).mem hmem
  · rintro ⟨hne, below, hmem, hreaches⟩
    refine ⟨below, ?_, hreaches⟩
    rw [List.mem_append, List.mem_cons, Field.mk.injEq] at hmem
    simpa [hne] using hmem

/-- Trees with the same paths are equal up to the order of siblings, if siblings differ. -/
theorem reordered_of_reaches : (fields others : Selection) → Distinct fields → Distinct others →
    (∀ path, Reaches path fields ↔ Reaches path others) → Reordered fields others
  | [], [], _, _, _ => .nil
  | [], .mk head children :: others, _, _, h => by
    obtain ⟨_, hmem, -⟩ := reaches_cons.1
      ((h [head]).2 (reaches_cons.2 ⟨children, List.mem_cons_self .., _, .top⟩))
    cases hmem
  | .mk head children :: fields, others, hf, ho, h => by
    have hhere : .mk head children ∈ .mk head children :: fields := List.mem_cons_self ..
    obtain ⟨below, hbelow, -⟩ := reaches_cons.1
      ((h [head]).1 (reaches_cons.2 ⟨children, hhere, _, .top⟩))
    have hchildren : Reordered children below := by
      refine reordered_of_reaches children below (hf.children hhere) (ho.children hbelow) ?_
      intro path
      rw [← reaches_children (hf [] _ .top) hhere, ← reaches_children (ho [] _ .top) hbelow]
      exact h _
    obtain ⟨front, back, rfl⟩ := List.append_of_mem hbelow
    have hrest : Reordered fields (front ++ back) := by
      refine reordered_of_reaches fields (front ++ back) (hf.sublist (List.sublist_cons_self ..))
        (ho.sublist ((List.sublist_cons_self ..).append_left front)) ?_
      rintro (_ | ⟨first, path⟩)
      · exact iff_of_true ⟨_, .top⟩ ⟨_, .top⟩
      · have hfields : Reaches (first :: path) ([] ++ fields) ↔
            first ≠ head ∧ Reaches (first :: path) ([] ++ .mk head children :: fields) :=
          reaches_without (hf [] _ .top)
        rw [reaches_without (ho [] _ .top), ← h]
        exact hfields
    exact .trans (.cons hchildren hrest) (.of_perm List.perm_middle.symm)

theorem distinct_ofChains (chains : List (List FieldHead)) : Distinct (ofChains chains) := by
  intro path siblings hlevel
  obtain ⟨-, rfl⟩ := level_ofChains.1 hlevel
  exact nodup_heads_ofChains _

/-- Siblings differ and stand in the order in which they first came in, and the paths are the
beginnings of the chains. Chains in another order, or repeated, have the same paths, and their
tree is the same up to the order of siblings. -/
theorem paths_of_chains (chains : List (List FieldHead)) :
    (∀ path siblings, Level path siblings (ofChains chains) →
      (siblings.map Field.head).Nodup ∧
      (siblings.map Field.head).Pairwise fun a b =>
        firstWith (path ++ [a]) chains < firstWith (path ++ [b]) chains) ∧
    (∀ path, path ≠ [] →
      (Reaches path (ofChains chains) ↔ ∃ chain ∈ chains, path <+: chain)) ∧
    ∀ others : List (List FieldHead), (∀ chain, chain ∈ others ↔ chain ∈ chains) →
      (∀ path, Reaches path (ofChains others) ↔ Reaches path (ofChains chains)) ∧
      Reordered (ofChains others) (ofChains chains) := by
  refine ⟨fun path siblings hlevel => ?_, fun path hp => reaches_ofChains hp, ?_⟩
  · exact ⟨distinct_ofChains chains path siblings hlevel, pairwise_of_level hlevel⟩
  · intro others hsame
    have hpaths : ∀ path, Reaches path (ofChains others) ↔ Reaches path (ofChains chains) := by
      rintro (_ | ⟨head, path⟩)
      · exact iff_of_true ⟨_, .top⟩ ⟨_, .top⟩
      · rw [reaches_ofChains (List.cons_ne_nil _ _), reaches_ofChains (List.cons_ne_nil _ _)]
        simp only [hsame]
    exact ⟨hpaths, reordered_of_reaches _ _ (distinct_ofChains _) (distinct_ofChains _) hpaths⟩

/-- Siblings that differ in their arguments, and chains that came in twice. -/
theorem paths_of_comments :
    let title := FieldHead.leaf "title"
    let body := FieldHead.leaf "body"
    let author := FieldHead.leaf "author"
    let comments := FieldHead.leaf "comments"
    let two := comments.withArgument ("take", "2")
    let chains := [[two, body], [title], [two, author], [comments, body]]
    let others := [[title], [comments, body], [two, author], [title], [two, body]]
    Level [two] [.mk body [], .mk author []] (ofChains chains) ∧
      ([body, author].Pairwise fun a b =>
        firstWith ([two] ++ [a]) chains < firstWith ([two] ++ [b]) chains) ∧
      [two] ≠ [] ∧ (Reaches [two] (ofChains chains) ↔ ∃ chain ∈ chains, [two] <+: chain) ∧
      (∀ chain, chain ∈ others ↔ chain ∈ chains) ∧
      Reordered (ofChains others) (ofChains chains) := by
  intro title body author comments two chains others
  have hchains : ofChains chains = [.mk two [.mk body [], .mk author []], .mk title [],
      .mk comments [.mk body []]] := rfl
  have hlevel : Level [two] [.mk body [], .mk author []] (ofChains chains) := by
    rw [hchains]
    exact .child (List.mem_cons_self ..) .top
  have hsame : ∀ chain, chain ∈ others ↔ chain ∈ chains := by
    intro chain
    simp only [others, chains, List.mem_cons, List.not_mem_nil, or_false]
    tauto
  have hne : [two] ≠ [] := List.cons_ne_nil _ _
  obtain ⟨hlevels, hreaches, horder⟩ := paths_of_chains chains
  exact ⟨hlevel, (hlevels [two] _ hlevel).2, hne, hreaches [two] hne, hsame,
    (horder others hsame).2⟩

end Projections.Selection
