import Projections.Document.Generation
import Projections.Proofs.Language.RoundTrip
import Projections.Proofs.Language.Weight

/-! What the written form of a selection tree has of the tree. Every piece of it ends by itself,
names where a character of another kind comes and quoted texts at their closing quote, so the text
is taken apart from the front in one way only, with or without margins. -/

namespace Projections

open Lexer

/-! ### Texts that end by themselves -/

/-- One of some characters comes next. -/
def Before (stops rest : List Char) : Prop := ∃ c ∈ rest.head?, c ∈ stops

theorem before_cons {c : Char} {stops : List Char} (h : c ∈ stops) (rest : List Char) :
    Before stops (c :: rest) :=
  ⟨c, rfl, h⟩

theorem Before.mono {stops more rest : List Char} (h : Before stops rest) (hs : stops ⊆ more) :
    Before more rest := by
  obtain ⟨c, hc, hmem⟩ := h
  exact ⟨c, hc, hs hmem⟩

/-- Things of a kind are told apart by the front of what they are written in, as far as the first
of the stops. -/
def Delimited {α : Type} (text : α → String) (IsKind : α → Prop) (stops : List Char) : Prop :=
  ∀ ⦃x y⦄, IsKind x → IsKind y → ∀ ⦃rest rest'⦄, Before stops rest → Before stops rest' →
    (text x).toList ++ rest = (text y).toList ++ rest' → x = y ∧ rest = rest'

section

variable {α : Type} {text : α → String} {stops : List Char}

/-- Runs of characters of one class end where another character stands. -/
theorem delimited_run {p : Char → Bool} (hp : stops.any p = false) :
    Delimited id (fun s => ∀ c ∈ s.toList, p c = true) stops := by
  intro s t hs ht rest rest' hrest hrest' h
  have hout : ∀ {rest : List Char}, Before stops rest → ∀ c ∈ rest.head?, p c = false := by
    rintro rest ⟨c, hc, hmem⟩ d hd
    rw [Option.mem_unique hd hc]
    exact Bool.eq_false_of_not_eq_true (List.any_eq_false.1 hp c hmem)
  obtain ⟨htake, hdrop⟩ := takeWhile_run hs (hout hrest)
  obtain ⟨htake', hdrop'⟩ := takeWhile_run ht (hout hrest')
  rw [id, id] at h
  rw [h] at htake hdrop
  exact ⟨String.toList_inj.1 (htake.symm.trans htake'), hdrop.symm.trans hdrop'⟩

/-- Two kinds are one if a character tells them apart. -/
theorem Delimited.or {IsOne IsOther : α → Prop} (c : Char) (hone : Delimited text IsOne stops)
    (hother : Delimited text IsOther stops)
    (hnot : ∀ x rest, IsOne x → Before stops rest → c ∉ ((text x).toList ++ rest).head?)
    (hstarts : ∀ x rest, IsOther x → c ∈ ((text x).toList ++ rest).head?) :
    Delimited text (fun x => IsOne x ∨ IsOther x) stops := by
  rintro x y (hx | hx) (hy | hy) rest rest' hrest hrest' h
  · exact hone hx hy hrest hrest' h
  · exact absurd (h ▸ hstarts y rest' hy) (hnot x rest hx hrest)
  · exact absurd (h ▸ hstarts x rest hx) (hnot y rest' hy hrest')
  · exact hother hx hy hrest hrest' h

/-- Lists with commas in between end where the list's own stop stands. -/
theorem Delimited.separated {IsKind : α → Prop} {stop : Char}
    (hd : Delimited text IsKind [',', stop]) (hstop : stop ≠ ',') :
    ∀ {xs ys : List α}, xs ≠ [] → ys ≠ [] → (∀ x ∈ xs, IsKind x) → (∀ y ∈ ys, IsKind y) →
      ∀ {rest rest' : List Char},
        (Projections.separated (xs.map text)).toList ++ stop :: rest =
          (Projections.separated (ys.map text)).toList ++ stop :: rest' →
        xs = ys ∧ rest = rest' := by
  have hend : ∀ rest : List Char, Before [',', stop] (stop :: rest) := before_cons (by simp)
  have hcomma : ∀ rest : List Char, Before [',', stop] (',' :: rest) := before_cons (by simp)
  intro xs
  induction xs with
  | nil =>
    intro ys hne
    exact absurd rfl hne
  | cons x xs ih =>
    rintro (_ | ⟨y, ys⟩) - hne hx hy rest rest' h
    · exact absurd rfl hne
    obtain ⟨hfirst, hxs⟩ := List.forall_mem_cons.1 hx
    obtain ⟨hfirst', hys⟩ := List.forall_mem_cons.1 hy
    -- a comma or the stop after the first items says whether the lists go on
    rcases xs with _ | ⟨x', xs⟩ <;> rcases ys with _ | ⟨y', ys⟩ <;>
      simp only [List.map_cons, List.map_nil, separated_singleton, separated_cons_cons,
        List.append_assoc, List.cons_append] at h
    · obtain ⟨rfl, hback⟩ := hd hfirst hfirst' (hend _) (hend _) h
      exact ⟨rfl, List.tail_eq_of_cons_eq hback⟩
    · obtain ⟨-, hback⟩ := hd hfirst hfirst' (hend _) (hcomma _) h
      exact absurd (List.head_eq_of_cons_eq hback) hstop
    · obtain ⟨-, hback⟩ := hd hfirst hfirst' (hcomma _) (hend _) h
      exact absurd (List.head_eq_of_cons_eq hback).symm hstop
    · obtain ⟨rfl, hback⟩ := hd hfirst hfirst' (hcomma _) (hcomma _) h
      simp only [List.cons.injEq, true_and] at hback
      obtain ⟨hmore, hrest⟩ := ih (List.cons_ne_nil _ _) (List.cons_ne_nil _ _) hxs hys hback
      exact ⟨by rw [hmore], hrest⟩

end

/-! ### Names -/

theorem continuesName_of_isWord {cs : List Char} (h : isWord cs = true) :
    ∀ c ∈ cs, continuesName c = true := by
  cases cs with
  | nil => cases h
  | cons first rest =>
    simp only [isWord, startsName, Bool.and_eq_true, List.all_eq_true] at h
    refine List.forall_mem_cons.2 ⟨?_, h.2⟩
    rcases Bool.or_eq_true_iff.1 h.1 with hfirst | hfirst
    · simp [continuesName, Text.isAlphanumeric, hfirst]
    · simp [continuesName, hfirst]

theorem delimited_word {stops : List Char} (h : stops.any continuesName = false) :
    Delimited id (fun name => isWord name.toList = true) stops := by
  intro name other hname hother
  exact delimited_run h (continuesName_of_isWord hname) (continuesName_of_isWord hother)

/-! ### Literals -/

/-- The characters that separate and enclose. -/
def marks : List Char := [',', ')', '\x7d', '"', '\x7b']

/-- A text without marks, or a quoted one. -/
def LiteralText (text : String) : Prop :=
  (∀ c ∈ text.toList, c ∉ marks) ∨ ∃ s, text = quoted s

theorem not_mem_marks_of_continuesName {c : Char} (h : continuesName c = true) : c ∉ marks := by
  have hmarks : marks.any continuesName = false := by decide
  exact fun hc => List.any_eq_false.1 hmarks c hc h

theorem not_mem_marks_of_isWord {cs : List Char} (h : isWord cs = true) :
    ∀ c ∈ cs, c ∉ marks :=
  fun c hc => not_mem_marks_of_continuesName (continuesName_of_isWord h c hc)

theorem not_mem_marks_of_isDigits {cs : List Char} (h : ∀ c ∈ cs, c.isDigit = true) :
    ∀ c ∈ cs, c ∉ marks :=
  fun c hc => not_mem_marks_of_continuesName (continuesName_of_isDigit (h c hc))

theorem not_mem_marks_of_signed {cs : List Char} (x : Binary64) (h : ∀ c ∈ cs, c ∉ marks) :
    ∀ c ∈ (x.signed cs).toList, c ∉ marks := by
  rw [Binary64.signed, String.toList_ofList]
  split_ifs
  · exact List.forall_mem_cons.2 ⟨by decide, h⟩
  · exact h

theorem not_mem_marks_of_integer (n : Int64) : ∀ c ∈ (toString n).toList, c ∉ marks := by
  have htext : toString n = n.toInt.repr := rfl
  have hdigits : ∀ k : ℕ, ∀ c ∈ k.repr.toList, c ∉ marks := by
    intro k
    rw [Nat.toList_repr]
    exact not_mem_marks_of_isDigits fun c hc => isDigit_of_mem_toDigits hc
  rw [htext, Int.repr_eq_if]
  split_ifs
  · exact hdigits _
  · rw [String.toList_append]
    exact List.forall_mem_cons.2 ⟨by decide, hdigits _⟩

theorem not_mem_marks_of_float (x : Binary64) : ∀ c ∈ x.sourceText.toList, c ∉ marks := by
  cases hfinite : x.isFinite with
  | true =>
    obtain ⟨front, back, htext, hp⟩ := Binary64.sourceText_pointed hfinite
    rw [htext]
    refine not_mem_marks_of_signed x
      (List.forall_mem_append.2 ⟨?_, List.forall_mem_cons.2 ⟨?_, ?_⟩⟩)
    · exact not_mem_marks_of_isDigits hp.frontDigits.2
    · decide
    · exact not_mem_marks_of_isDigits hp.backDigits.2
  | false =>
    cases hnan : x.isNaN with
    | true =>
      have htext : x.sourceText = "NaN" := by
        rw [Binary64.sourceText, Binary64.isIntegral, hfinite, Binary64.text, hnan]
        rfl
      rw [htext]
      exact not_mem_marks_of_isWord (by decide)
    | false =>
      rw [Binary64.sourceText_infinite hfinite hnan]
      exact not_mem_marks_of_signed x (not_mem_marks_of_isWord (by decide))

theorem Literal.literalText : (literal : Literal) → LiteralText literal.text
  | .null => .inl (not_mem_marks_of_isWord (by decide))
  | .boolean true => .inl (not_mem_marks_of_isWord (by decide))
  | .boolean false => .inl (not_mem_marks_of_isWord (by decide))
  | .integer n => .inl (not_mem_marks_of_integer n)
  | .float x => .inl (not_mem_marks_of_float x)
  | .string s => .inr ⟨s, rfl⟩

theorem toList_quoted_append (s : String) (rest : List Char) :
    (quoted s).toList ++ rest = '"' :: (s.toList.flatMap Text.sourceEscape ++ '"' :: rest) := by
  rw [quoted, String.toList_ofList, Text.sourceQuoted]
  simp

/-- A quoted text ends at its closing quote, whatever comes after it. -/
theorem quoted_inj {s t : String} {rest rest' : List Char}
    (h : (quoted s).toList ++ rest = (quoted t).toList ++ rest') :
    s = t ∧ rest = rest' := by
  rw [toList_quoted_append, toList_quoted_append] at h
  have heq := List.tail_eq_of_cons_eq h
  -- the lexer finds the one closing quote of both
  have hscan := scanString_quoted s.toList rest 0 0
  rw [heq, scanString_quoted] at hscan
  obtain rfl : s = t := String.toList_inj.1 (congrArg Prod.fst (Except.ok.inj hscan)).symm
  exact ⟨rfl, List.tail_eq_of_cons_eq (List.append_cancel_left heq)⟩

/-- A mark that does not stop a text without marks does not start it either. -/
theorem not_head_of_unmarked {text : String} {stops rest : List Char} {c : Char}
    (h : ∀ c ∈ text.toList, c ∉ marks) (hr : Before stops rest) (hc : c ∈ marks)
    (hs : c ∉ stops) : c ∉ (text.toList ++ rest).head? := by
  intro hmem
  cases htext : text.toList with
  | nil =>
    obtain ⟨d, hd, hstop⟩ := hr
    rw [htext, List.nil_append] at hmem
    exact hs (Option.mem_unique hmem hd ▸ hstop)
  | cons d more =>
    rw [htext] at h hmem
    obtain rfl : d = c := Option.some.inj hmem
    exact h d (List.mem_cons_self ..) hc

theorem delimited_literal {stops : List Char} (hm : stops ⊆ marks) (hq : '"' ∉ stops) :
    Delimited id LiteralText stops := by
  refine .or '"' ?_ ?_ ?_ ?_
  · intro s t hs ht
    have hrun : Delimited id (fun s => ∀ c ∈ s.toList, (!marks.contains c) = true) stops :=
      delimited_run (List.any_eq_false.2 fun c hc => by simpa using hm hc)
    exact hrun (by simpa using hs) (by simpa using ht)
  · rintro _ _ ⟨s, rfl⟩ ⟨t, rfl⟩ rest rest' - - h
    obtain ⟨rfl, heq⟩ := quoted_inj h
    exact ⟨rfl, heq⟩
  · intro s rest hs hr
    exact not_head_of_unmarked hs hr (by decide) hq
  · rintro _ rest ⟨s, rfl⟩
    rw [id, toList_quoted_append]
    rfl

/-! ### Entries -/

def entryText (entry : String × String) : String := entry.1 ++ ": " ++ entry.2

theorem toList_entryText_append (entry : String × String) (rest : List Char) :
    (entryText entry).toList ++ rest =
      entry.1.toList ++ ':' :: ' ' :: (entry.2.toList ++ rest) := by
  simp [entryText]

/-- An entry ends where its value does. -/
theorem Delimited.entry {IsValue : String → Prop} {stops : List Char}
    (h : Delimited id IsValue stops) :
    Delimited entryText (fun entry => isWord entry.1.toList = true ∧ IsValue entry.2) stops := by
  rintro ⟨key, value⟩ ⟨key', value'⟩ ⟨hkey, hvalue⟩ ⟨hkey', hvalue'⟩ rest rest' hr hr' heq
  rw [toList_entryText_append, toList_entryText_append] at heq
  have hcolon : ∀ rest : List Char, Before [':'] (':' :: rest) := before_cons (by simp)
  obtain ⟨rfl, hback⟩ := delimited_word (by decide) hkey hkey' (hcolon _) (hcolon _) heq
  simp only [List.cons.injEq, true_and] at hback
  obtain ⟨rfl, hrest⟩ := h hvalue hvalue' hr hr' hback
  exact ⟨rfl, hrest⟩

/-! ### Values of arguments -/

def bracedText (entries : List (String × String)) : String :=
  "\x7b" ++ separated (entries.map entryText) ++ "\x7d"

/-- Entries with the texts of literals, in braces. -/
def BracedText (text : String) : Prop :=
  ∃ entries, entries ≠ [] ∧
    (∀ entry ∈ entries, isWord entry.1.toList = true ∧ LiteralText entry.2) ∧
    text = bracedText entries

theorem toList_bracedText_append (entries : List (String × String)) (rest : List Char) :
    (bracedText entries).toList ++ rest =
      '\x7b' :: ((separated (entries.map entryText)).toList ++ '\x7d' :: rest) := by
  simp [bracedText]

theorem delimited_braced {stops : List Char} : Delimited id BracedText stops := by
  rintro _ _ ⟨xs, hxs, hx, rfl⟩ ⟨ys, hys, hy, rfl⟩ rest rest' - - h
  rw [id, id, toList_bracedText_append, toList_bracedText_append] at h
  have hliteral : Delimited id LiteralText [',', '\x7d'] :=
    delimited_literal (by decide) (by decide)
  obtain ⟨rfl, heq⟩ :=
    hliteral.entry.separated (by decide) hxs hys hx hy (List.tail_eq_of_cons_eq h)
  exact ⟨rfl, heq⟩

/-- What operators and arguments become: a value of literals, or the name of a variable. -/
inductive ArgumentValue : String → Prop
  | application (a : Application) (h : ∀ entry ∈ a.arguments, isWord entry.1.toList = true) :
      ArgumentValue a.valueText
  | bound (name : String) (h : isWord name.toList = true) : ArgumentValue ("$" ++ name)

theorem ArgumentValue.literal_or_braced {text : String} (h : ArgumentValue text) :
    LiteralText text ∨ BracedText text := by
  cases h with
  | application a h =>
    unfold Application.valueText
    split
    · exact .inl (Literal.boolean true).literalText
    · exact .inl (Literal.literalText _)
    · next hne _ =>
      refine .inr ⟨a.arguments.map fun entry => (entry.1, entry.2.text), ?_, ?_, ?_⟩
      · simpa using hne
      · simp only [List.mem_map]
        rintro _ ⟨entry, hmem, rfl⟩
        exact ⟨h entry hmem, entry.2.literalText⟩
      · rw [bracedText, List.map_map]
        rfl
  | bound name h =>
    refine .inl (.inl ?_)
    rw [String.toList_append]
    exact List.forall_mem_cons.2 ⟨by decide, not_mem_marks_of_isWord h⟩

theorem delimited_value : Delimited id ArgumentValue [',', ')'] := by
  have hvalue : Delimited id (fun text => LiteralText text ∨ BracedText text) [',', ')'] := by
    refine .or '\x7b' (delimited_literal (by decide) (by decide)) delimited_braced ?_ ?_
    · rintro _ rest (h | ⟨s, rfl⟩) hr
      · exact not_head_of_unmarked h hr (by decide) (by decide)
      · rw [id, toList_quoted_append, List.head?_cons, Option.mem_some_iff]
        decide
    · rintro _ rest ⟨entries, -, -, rfl⟩
      rw [id, toList_bracedText_append]
      rfl
  intro s t hs ht
  exact hvalue hs.literal_or_braced ht.literal_or_braced

/-! ### Fields -/

/-- A field as documents have it: names are words, and arguments are those of operators or
stand for variables. -/
structure FieldHead.Lexical (head : FieldHead) : Prop where
  name : isWord head.name.toList = true
  arguments : ∀ argument ∈ head.arguments,
    isWord argument.1.toList = true ∧ ArgumentValue argument.2

/-- What stands between a field's name and what comes after the field. -/
def FieldHead.argumentChars (head : FieldHead) (rest : List Char) : List Char :=
  if head.arguments = [] then rest
  else '(' :: ((separated (head.arguments.map entryText)).toList ++ ')' :: rest)

theorem FieldHead.toList_text_append (head : FieldHead) (rest : List Char) :
    head.text.toList ++ rest = head.name.toList ++ head.argumentChars rest := by
  rw [text, argumentChars]
  split_ifs with hempty hnil hnil
  · rfl
  · exact absurd (List.isEmpty_iff.1 hempty) hnil
  · exact absurd (List.isEmpty_iff.2 hnil) hempty
  · simp only [String.toList_append, List.append_assoc]
    rfl

/-- A field's name and arguments end where the line does or something is below the field. -/
theorem delimited_head : Delimited FieldHead.text FieldHead.Lexical ['\n', ' '] := by
  intro head other hhead hother rest rest' hr hr' h
  rw [head.toList_text_append, other.toList_text_append] at h
  have hbefore : ∀ (head : FieldHead) {rest : List Char}, Before ['\n', ' '] rest →
      Before ['(', '\n', ' '] (head.argumentChars rest) := by
    intro head rest hr
    rw [FieldHead.argumentChars]
    split_ifs
    · exact hr.mono (List.subset_cons_self ..)
    · exact before_cons (List.mem_cons_self ..) _
  have hopen : ∀ rest : List Char, ¬ Before ['\n', ' '] ('(' :: rest) := by
    rintro rest ⟨c, hc, hmem⟩
    obtain rfl : '(' = c := Option.some.inj hc
    exact absurd hmem (by decide)
  obtain ⟨hname, hback⟩ := delimited_word (by decide) hhead.name hother.name
    (hbefore head hr) (hbefore other hr') h
  suffices harguments : head.arguments = other.arguments ∧ rest = rest' by
    exact ⟨congrArg₂ FieldHead.mk hname harguments.1, harguments.2⟩
  rw [FieldHead.argumentChars, FieldHead.argumentChars] at hback
  split_ifs at hback with hnil hnil' hnil'
  · exact ⟨hnil.trans hnil'.symm, hback⟩
  · exact absurd (hback ▸ hr) (hopen _)
  · exact absurd (hback ▸ hr') (hopen _)
  · exact delimited_value.entry.separated (by decide) hnil hnil' hhead.arguments hother.arguments
      (List.tail_eq_of_cons_eq hback)

/-! ### Trees -/

namespace Selection

/-- All fields of a tree are as documents have them. -/
inductive Lexical : Selection → Prop
  | nil : Lexical []
  | cons {head : FieldHead} {children fields : Selection} :
      head.Lexical → Lexical children → Lexical fields → Lexical (.mk head children :: fields)

variable {indent : Nat}

/-- What stands after a field's head: the end of the line, or what is below it in braces. -/
def lineEnd (indent depth : Nat) (children : Selection) (rest : List Char) : List Char :=
  if children = [] then '\n' :: rest
  else ' ' :: '\x7b' :: '\n' :: ((text indent (depth + 1) children).toList ++
    ((margin indent depth).toList ++ '\x7d' :: '\n' :: rest))

theorem toList_text_cons_append (depth : Nat) (head : FieldHead) (children fields : Selection)
    (rest : List Char) :
    (text indent depth (.mk head children :: fields)).toList ++ rest =
      (margin indent depth).toList ++ (head.text.toList ++
        lineEnd indent depth children ((text indent depth fields).toList ++ rest)) := by
  rw [text, fieldText, lineEnd]
  cases children with
  | nil => simp
  | cons => simp

theorem before_lineEnd (indent depth : Nat) (children : Selection) (rest : List Char) :
    Before ['\n', ' '] (lineEnd indent depth children rest) := by
  rw [lineEnd]
  split_ifs <;> exact before_cons (by decide) _

/-- No field comes next, also after a margin. -/
def Closes (rest : List Char) : Prop :=
  ∀ c ∈ (rest.dropWhile (· = ' ')).head?, startsName c = false

theorem dropWhile_margin_append (indent depth : Nat) {c : Char} (h : c ≠ ' ')
    (rest : List Char) :
    ((margin indent depth).toList ++ c :: rest).dropWhile (· = ' ') = c :: rest := by
  refine (takeWhile_run (fun d hd => ?_) ?_).2
  · rw [margin, String.toList_ofList] at hd
    exact decide_eq_true (List.eq_of_mem_replicate hd)
  · rintro d ⟨⟩
    exact decide_eq_false h

theorem closes_brace (depth : Nat) (rest : List Char) :
    Closes ((margin indent depth).toList ++ '\x7d' :: rest) := by
  rw [Closes, dropWhile_margin_append indent depth (by decide)]
  rintro c ⟨⟩
  decide

theorem not_closes_text {head : FieldHead} {children fields : Selection} (h : head.Lexical)
    (depth : Nat) (rest : List Char) :
    ¬ Closes ((text indent depth (.mk head children :: fields)).toList ++ rest) := by
  obtain ⟨hname, -⟩ := h
  rw [toList_text_cons_append, head.toList_text_append]
  cases hchars : head.name.toList with
  | nil =>
    rw [hchars] at hname
    cases hname
  | cons c more =>
    rw [hchars, isWord, Bool.and_eq_true] at hname
    have hspace : c ≠ ' ' := by
      rintro rfl
      exact absurd hname.1 (by decide)
    intro hcloses
    rw [Closes, List.cons_append, dropWhile_margin_append indent depth hspace] at hcloses
    rw [hcloses c rfl] at hname
    exact absurd hname.1 Bool.false_ne_true

/-- A tree is told by the front of its text, if no field comes after it. -/
theorem text_append_inj {fields : Selection} (hf : Lexical fields) :
    ∀ {others : Selection}, Lexical others → ∀ (depth : Nat) {rest rest' : List Char},
      Closes rest → Closes rest' →
      (text indent depth fields).toList ++ rest = (text indent depth others).toList ++ rest' →
      fields = others ∧ rest = rest' := by
  induction hf with
  | nil =>
    -- another tree's text begins with a margin and a name, which does not come next
    rintro _ ⟨⟩ depth rest rest' hr hr' h
    · exact ⟨rfl, h⟩
    · next hother _ _ =>
      rw [text, String.toList_empty, List.nil_append] at h
      exact absurd (h ▸ hr) (not_closes_text hother depth rest')
  | @cons head children fields hhead hchildren hfields ihc ihf =>
    rintro _ ⟨⟩ depth rest rest' hr hr' h
    · rw [text, String.toList_empty, List.nil_append] at h
      exact absurd (h ▸ hr') (not_closes_text hhead depth rest)
    · next other below others hother hbelow hothers =>
      rw [toList_text_cons_append, toList_text_cons_append] at h
      obtain ⟨rfl, hline⟩ := delimited_head hhead hother (before_lineEnd ..) (before_lineEnd ..)
        (List.append_cancel_left h)
      suffices hlevel : children = below ∧ (text indent depth fields).toList ++ rest =
          (text indent depth others).toList ++ rest' by
        obtain ⟨rfl, hback⟩ := hlevel
        obtain ⟨rfl, hrest⟩ := ihf hothers depth hr hr' hback
        exact ⟨rfl, hrest⟩
      -- a line that ends and one that opens a brace differ in the first character
      rw [lineEnd, lineEnd] at hline
      split_ifs at hline with hnil hnil' hnil'
      · exact ⟨hnil.trans hnil'.symm, List.tail_eq_of_cons_eq hline⟩
      · exact absurd (List.head_eq_of_cons_eq hline) (by decide)
      · exact absurd (List.head_eq_of_cons_eq hline) (by decide)
      · simp only [List.cons.injEq, true_and] at hline
        obtain ⟨hsame, hback⟩ := ihc hbelow (depth + 1) (closes_brace depth _)
          (closes_brace depth _) hline
        have hbrace := List.append_cancel_left hback
        simp only [List.cons.injEq, true_and] at hbrace
        exact ⟨hsame, hbrace⟩

/-- The written form has all that a tree is: its fields, their order, their arguments and what
is below them. -/
theorem eq_of_text_eq (indent depth : Nat) {fields others : Selection} (hf : Lexical fields)
    (ho : Lexical others) (h : text indent depth fields = text indent depth others) :
    fields = others := by
  have hend : Closes [] := by
    rintro c ⟨⟩
  exact (text_append_inj hf ho depth hend hend (by rw [h])).1

/-- Chains that came in another order, with marks in the texts of arguments and no margins. -/
theorem eq_of_text_eq_of_posts :
    let title := FieldHead.leaf "title"
    let near : Application :=
      ⟨"Near", [("place", .string "a, b) \x7d\n"), ("within", .integer (-2))]⟩
    let posts := ((FieldHead.leaf "posts").withArgument near.fieldArgument).withArgument
      ("take", "$first")
    let fields := ofChains [[posts, title], [title]]
    let others := ofChains [[posts], [title], [posts, title]]
    Lexical fields ∧ Lexical others ∧ text 0 1 fields = text 0 1 others ∧ fields = others := by
  intro title near posts fields others
  have hne : posts ≠ title := fun h => absurd (congrArg FieldHead.name h) (by decide)
  have hfields : fields = [.mk posts [.mk title []], .mk title []] := by
    simp [fields, ofChains, insert, update, Field.head, hne]
  have hothers : others = [.mk posts [.mk title []], .mk title []] := by
    simp [others, ofChains, insert, update, Field.head, Field.children, hne]
  have htitle : title.Lexical := ⟨by decide, by simp [title, FieldHead.leaf]⟩
  have hposts : posts.Lexical := by
    refine ⟨by decide, List.forall_mem_cons.2 ⟨⟨by decide, ?_⟩,
      List.forall_mem_singleton.2 ⟨by decide, ?_⟩⟩⟩
    · exact .application near (by decide)
    · exact .bound "first" (by decide)
  have hlexical : Lexical [.mk posts [.mk title []], .mk title []] :=
    .cons hposts (.cons htitle .nil .nil) (.cons htitle .nil .nil)
  have hf : Lexical fields := by rwa [hfields]
  have ho : Lexical others := by rwa [hothers]
  have htext : text 0 1 fields = text 0 1 others := by rw [hfields, hothers]
  exact ⟨hf, ho, htext, eq_of_text_eq 0 1 hf ho htext⟩

end Selection

end Projections
