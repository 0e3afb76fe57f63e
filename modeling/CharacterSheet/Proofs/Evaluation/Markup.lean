import CharacterSheet.Evaluation.Markup
import CharacterSheet.Proofs.Evaluation.Shape

/-!
# Markup that can be read back

All marks start with the same character. Where no message has it, the text of a list shows the
entries in their order and below each other, with all their messages: two lists with the same text
differ in their flags at most, which are not shown (`Shortfall.render_eq_render_iff`).

A message ends where the first mark starts, and the mark says whether entries follow below. So the
text of an entry can be cut off from whatever stands behind it (`Shortfall.CutsOff`), and that of a
list as well, since the mark that ends it starts no entry.
-/

namespace CharacterSheet.Shortfall

/-! ## Entries without flags -/

mutual

/-- An entry with no flag set, at any depth. -/
def unflagged : Shortfall → Shortfall
  | ⟨_, message, children⟩ => ⟨false, message, unflaggedList children⟩

/-- Entries with no flag set, at any depth. -/
def unflaggedList : List Shortfall → List Shortfall
  | [] => []
  | entry :: rest => entry.unflagged :: unflaggedList rest

end

theorem unflagged_eq (entry : Shortfall) :
    entry.unflagged = ⟨false, entry.message, unflaggedList entry.children⟩ := by
  cases entry
  rfl

mutual

theorem markup_unflagged (entry : Shortfall) : entry.unflagged.markup = entry.markup := by
  obtain ⟨isBlocking, message, children⟩ := entry
  rw [unflagged, markup, markup, markupChildren_unflaggedList children]

theorem markupEntries_unflaggedList (list : List Shortfall) :
    markupEntries (unflaggedList list) = markupEntries list := by
  cases list with
  | nil => rfl
  | cons entry rest =>
    rw [unflaggedList, markupEntries, markupEntries, markup_unflagged entry,
      markupEntries_unflaggedList rest]

theorem markupChildren_unflaggedList (children : List Shortfall) :
    markupChildren (unflaggedList children) = markupChildren children := by
  cases children with
  | nil => rfl
  | cons child rest =>
    rw [unflaggedList, markupChildren, markupChildren, markup_unflagged child,
      markupEntries_unflaggedList rest]

end

theorem render_unflaggedList (list : List Shortfall) :
    render (unflaggedList list) = render list := by
  rw [render, render, markupList, markupList, markupEntries_unflaggedList]

/-! ## Messages without marks -/

/-- No message has the character that marks start with, at any depth. -/
def IsMarkFree (entry : Shortfall) : Prop :=
  ∀ e ∈ entry.entries, '<' ∉ e.message.toList

theorem IsMarkFree.notMem_message {entry : Shortfall} (h : entry.IsMarkFree) :
    '<' ∉ entry.message.toList :=
  h entry (mem_entries.mpr (Or.inl rfl))

theorem IsMarkFree.of_mem_children {entry : Shortfall} (h : entry.IsMarkFree) {child : Shortfall}
    (hchild : child ∈ entry.children) : child.IsMarkFree :=
  fun e he => h e (mem_entries.mpr (Or.inr ⟨child, hchild, he⟩))

/-- A message ends where the first mark starts. -/
theorem eq_of_append_mark {s t rest rest' : List Char} (hs : '<' ∉ s) (ht : '<' ∉ t)
    (heq : s ++ '<' :: rest = t ++ '<' :: rest') : s = t ∧ rest = rest' := by
  induction s generalizing t with
  | nil =>
    cases t with
    | nil => exact ⟨rfl, (List.cons.inj heq).2⟩
    | cons d t =>
      obtain ⟨rfl, -⟩ := List.cons.inj heq
      exact absurd List.mem_cons_self ht
  | cons c s ih =>
    cases t with
    | nil =>
      obtain ⟨rfl, -⟩ := List.cons.inj heq
      exact absurd List.mem_cons_self hs
    | cons d t =>
      obtain ⟨rfl, htail⟩ := List.cons.inj heq
      obtain ⟨rfl, hrest⟩ := ih (List.not_mem_of_not_mem_cons hs)
        (List.not_mem_of_not_mem_cons ht) htail
      exact ⟨rfl, hrest⟩

/-! ## Texts that can be cut off -/

theorem markup_append (entry : Shortfall) (rest : List Char) :
    entry.markup ++ rest = entryStart ++
      (entry.message.toList ++ (markupChildren entry.children ++ (entryEnd ++ rest))) := by
  obtain ⟨isBlocking, message, children⟩ := entry
  simp only [markup, List.append_assoc]

/-- The mark that ends a list starts no entry. -/
theorem markupEntries_cons_ne_listEnd (entry : Shortfall) (tail : List Shortfall)
    (rest rest' : List Char) : markupEntries (entry :: tail) ++ rest ≠ listEnd ++ rest' := by
  intro heq
  rw [markupEntries, List.append_assoc, markup_append] at heq
  simp [entryStart, listEnd] at heq

/-- Behind a message stands a mark, whether or not there are entries below. -/
theorem exists_mark_behind_message (children : List Shortfall) (rest : List Char) :
    ∃ tail, markupChildren children ++ (entryEnd ++ rest) = '<' :: tail := by
  cases children with
  | nil => exact ⟨_, rfl⟩
  | cons => exact ⟨_, rfl⟩

/-- Whatever stands behind an entry, its text shows where it ends and all of it but the flags. -/
def CutsOff (entry : Shortfall) : Prop :=
  ∀ {entry' : Shortfall} {rest rest' : List Char}, entry'.IsMarkFree →
    entry.markup ++ rest = entry'.markup ++ rest' →
      entry.unflagged = entry'.unflagged ∧ rest = rest'

/-- The mark that ends a list starts no entry, so if entries can be cut off then a list of them can.
-/
theorem unflaggedList_eq_of_markupEntries {list list' : List Shortfall} {rest rest' : List Char}
    (hcuts : ∀ entry ∈ list, entry.CutsOff) (hfree' : ∀ entry ∈ list', entry.IsMarkFree)
    (heq : markupEntries list ++ (listEnd ++ rest) = markupEntries list' ++ (listEnd ++ rest')) :
    unflaggedList list = unflaggedList list' ∧ rest = rest' := by
  induction list generalizing list' with
  | nil =>
    cases list' with
    | nil => exact ⟨rfl, List.append_cancel_left heq⟩
    | cons entry' tail' => exact absurd heq.symm (markupEntries_cons_ne_listEnd entry' tail' _ _)
  | cons entry tail ih =>
    cases list' with
    | nil => exact absurd heq (markupEntries_cons_ne_listEnd entry tail _ _)
    | cons entry' tail' =>
      obtain ⟨hentry, htail⟩ := List.forall_mem_cons.mp hcuts
      obtain ⟨hentry', htail'⟩ := List.forall_mem_cons.mp hfree'
      rw [markupEntries, markupEntries, List.append_assoc, List.append_assoc] at heq
      obtain ⟨hfirst, heq⟩ := hentry hentry' heq
      obtain ⟨hothers, hrest⟩ := ih htail htail' heq
      exact ⟨by rw [unflaggedList, unflaggedList, hfirst, hothers], hrest⟩

/-- The first mark behind a message says whether there are entries below. -/
theorem unflaggedList_eq_of_markupChildren {list list' : List Shortfall} {rest rest' : List Char}
    (hcuts : ∀ entry ∈ list, entry.CutsOff) (hfree' : ∀ entry ∈ list', entry.IsMarkFree)
    (heq : markupChildren list ++ (entryEnd ++ rest) =
      markupChildren list' ++ (entryEnd ++ rest')) :
    unflaggedList list = unflaggedList list' ∧ rest = rest' := by
  cases list with
  | nil =>
    cases list' with
    | nil => exact ⟨rfl, List.append_cancel_left heq⟩
    | cons => simp [markupChildren, entryEnd, lineBreak] at heq
  | cons entry tail =>
    cases list' with
    | nil => simp [markupChildren, entryEnd, lineBreak] at heq
    | cons entry' tail' =>
      simp only [markupChildren_cons, markupList, List.append_assoc] at heq
      have hlist := List.append_cancel_left (List.append_cancel_left heq)
      obtain ⟨hentries, hend⟩ := unflaggedList_eq_of_markupEntries hcuts hfree' hlist
      exact ⟨hentries, List.append_cancel_left hend⟩

theorem IsMarkFree.cutsOff {entry : Shortfall} (hfree : entry.IsMarkFree) : entry.CutsOff := by
  induction entry using childInduction with
  | step entry ih =>
    intro entry' rest rest' hfree' heq
    have hcuts : ∀ child ∈ entry.children, child.CutsOff :=
      fun child hchild => ih child hchild (hfree.of_mem_children hchild)
    have hchildren' : ∀ child ∈ entry'.children, child.IsMarkFree :=
      fun child hchild => hfree'.of_mem_children hchild
    obtain ⟨tail, htail⟩ := exists_mark_behind_message entry.children rest
    obtain ⟨tail', htail'⟩ := exists_mark_behind_message entry'.children rest'
    rw [markup_append, markup_append, htail, htail'] at heq
    obtain ⟨hmessage, rfl⟩ := eq_of_append_mark hfree.notMem_message hfree'.notMem_message
      (List.append_cancel_left heq)
    have hbelow := htail.trans htail'.symm
    obtain ⟨hchildren, hrest⟩ := unflaggedList_eq_of_markupChildren hcuts hchildren' hbelow
    rw [unflagged_eq, unflagged_eq, String.toList_inj.mp hmessage, hchildren]
    exact ⟨rfl, hrest⟩

/-- Where no message has the character that marks start with, two lists of entries have the same
text exactly if they are the same but for their flags: with the same messages in the same order at
every level, and the same entries below each. -/
theorem render_eq_render_iff {list list' : List Shortfall}
    (hfree : ∀ entry ∈ entriesList list, '<' ∉ entry.message.toList)
    (hfree' : ∀ entry ∈ entriesList list', '<' ∉ entry.message.toList) :
    render list = render list' ↔ unflaggedList list = unflaggedList list' := by
  have hcuts : ∀ entry ∈ list, entry.CutsOff := by
    intro entry hentry
    apply IsMarkFree.cutsOff
    exact fun e he => hfree e (mem_entriesList.mpr ⟨entry, hentry, he⟩)
  have hlist' : ∀ entry ∈ list', entry.IsMarkFree :=
    fun entry hentry e he => hfree' e (mem_entriesList.mpr ⟨entry, hentry, he⟩)
  constructor
  · intro heq
    have hmarkup : markupList list = markupList list' := String.ofList_injective heq
    simp only [markupList, List.append_assoc] at hmarkup
    have hentries := List.append_cancel_left hmarkup
    rw [← List.append_nil listEnd] at hentries
    exact (unflaggedList_eq_of_markupEntries hcuts hlist' hentries).1
  · intro heq
    rw [← render_unflaggedList list, heq, render_unflaggedList]

/-- A message with marks of its own can pass for two. -/
example : render [notice "a</li><li>b"] = render [notice "a", notice "b"] := by decide +kernel

/-- Two lists that show the same: the second one has the flags of a report that passes. -/
theorem render_eq_render_iff_flags :
    let children := [notice "SPECIAL: is tall", notice ""]
    let list : List Shortfall := [⟨true, "all of:", blocking "Dodge" :: children⟩, blocking "a > b"]
    let list' : List Shortfall := [⟨false, "all of:", notice "Dodge" :: children⟩, notice "a > b"]
    (∀ entry ∈ entriesList list, '<' ∉ entry.message.toList) ∧
      (∀ entry ∈ entriesList list', '<' ∉ entry.message.toList) ∧
      render list = render list' ∧ unflaggedList list = unflaggedList list' := by
  intro children list list'
  have hfree : ∀ entry ∈ entriesList list, '<' ∉ entry.message.toList := by decide +kernel
  have hfree' : ∀ entry ∈ entriesList list', '<' ∉ entry.message.toList := by decide +kernel
  have hrender : render list = render list' := by decide +kernel
  exact ⟨hfree, hfree', hrender, (render_eq_render_iff hfree hfree').mp hrender⟩

end CharacterSheet.Shortfall
