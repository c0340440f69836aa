import Mathlib.Data.List.Forall2

/-!
# Going through a list

What is known of the items of a list when a function that may fail has been applied to all of them,
or when the first result of one has been looked for. What is known of the two steps of a computation
that may fail comes first.
-/

namespace MathBlocks

variable {α β γ : Type}

/-- Where two steps in turn succeed, each of them does. -/
theorem exists_of_bind_ok
    {first : Except γ α}
    {next : α → Except γ β}
    {result : β}
    (h : first >>= next = .ok result) :
    ∃ middle, first = .ok middle ∧ next middle = .ok result := by
  cases first with
  | error fault =>
      cases h
  | ok middle =>
      exact ⟨middle, rfl, h⟩

theorem mapM_of_forall
    {items : List α}
    {find? : α → Option β}
    {found : α → β}
    (h : ∀ item ∈ items, find? item = some (found item)) :
    items.mapM find? = some (items.map found) := by
  induction items with
  | nil =>
      rfl
  | cons item rest ih =>
      have hrest := ih fun other hother => h other (List.mem_cons_of_mem _ hother)
      rw [List.mapM_cons, h item List.mem_cons_self, hrest]
      rfl

theorem mapM_congr
    {items : List α}
    {find? other? : α → Option β}
    (h : ∀ item ∈ items, find? item = other? item) :
    items.mapM find? = items.mapM other? := by
  induction items with
  | nil =>
      rfl
  | cons item rest ih =>
      have hrest := ih fun other hother => h other (List.mem_cons_of_mem _ hother)
      rw [List.mapM_cons, List.mapM_cons, h item List.mem_cons_self, hrest]

theorem forall₂_of_mapM
    {items : List α}
    {find? : α → Option β}
    {found : List β}
    (h : items.mapM find? = some found) :
    List.Forall₂ (fun item result => find? item = some result) items found := by
  induction items generalizing found with
  | nil =>
      cases h
      exact .nil
  | cons item rest ih =>
      rw [List.mapM_cons] at h
      obtain ⟨first, hfirst, hrest⟩ := Option.bind_eq_some_iff.mp h
      obtain ⟨others, hothers, hfound⟩ := Option.bind_eq_some_iff.mp hrest
      cases hfound
      exact .cons hfirst (ih hothers)

theorem mapM_of_forall₂
    {items : List α}
    {find? : α → Option β}
    {found : List β}
    (h : List.Forall₂ (fun item result => find? item = some result) items found) :
    items.mapM find? = some found := by
  induction h with
  | nil =>
      rfl
  | cons hfirst _ ih =>
      rw [List.mapM_cons, hfirst, ih]
      rfl

/-- In another order the same is found in this order. -/
theorem mapM_perm
    {items others : List α}
    (h : items.Perm others)
    {find? : α → Option β}
    {found : List β}
    (hfound : items.mapM find? = some found) :
    ∃ results, others.mapM find? = some results ∧ found.Perm results := by
  induction h generalizing found with
  | nil =>
      exact ⟨found, hfound, .refl found⟩
  | @cons item items others _ ih =>
      obtain _ | ⟨hfirst, hrest⟩ := forall₂_of_mapM hfound
      obtain ⟨results, hresults, hperm⟩ := ih (mapM_of_forall₂ hrest)
      exact ⟨_, mapM_of_forall₂ (.cons hfirst (forall₂_of_mapM hresults)), hperm.cons _⟩
  | swap item other items =>
      obtain _ | ⟨hother, hrest⟩ := forall₂_of_mapM hfound
      obtain _ | ⟨hitem, hrest⟩ := hrest
      exact ⟨_, mapM_of_forall₂ (.cons hitem (.cons hother hrest)), .swap _ _ _⟩
  | trans _ _ ihfirst ihsecond =>
      obtain ⟨middle, hmiddle, hfirst⟩ := ihfirst hfound
      obtain ⟨results, hresults, hsecond⟩ := ihsecond hmiddle
      exact ⟨results, hresults, hfirst.trans hsecond⟩

/-- What is found for a list is found for one of its items. -/
theorem exists_of_mem_mapM
    {items : List α}
    {find? : α → Option β}
    {found : List β}
    (h : items.mapM find? = some found)
    {result : β}
    (hmem : result ∈ found) :
    ∃ item, find? item = some result := by
  have hall := forall₂_of_mapM h
  obtain ⟨i, hi, rfl⟩ := List.mem_iff_getElem.mp hmem
  exact ⟨_, hall.get (by rwa [hall.length_eq]) hi⟩

/-- Where something is found for a list, it is found for each of its items. -/
theorem exists_of_mem_items
    {items : List α}
    {find? : α → Option β}
    {found : List β}
    (h : items.mapM find? = some found)
    {item : α}
    (hmem : item ∈ items) :
    ∃ result, find? item = some result := by
  have hall := forall₂_of_mapM h
  obtain ⟨i, hi, rfl⟩ := List.mem_iff_getElem.mp hmem
  exact ⟨_, hall.get hi (by rwa [← hall.length_eq])⟩

/-- The first result in lists put together is the first one in them, list by list. -/
theorem findSome?_flatMap
    (items : List α)
    (parts : α → List β)
    (find? : β → Option γ) :
    (items.flatMap parts).findSome? find? =
      items.findSome? fun item => (parts item).findSome? find? := by
  induction items with
  | nil =>
      rfl
  | cons item rest ih =>
      rw [List.flatMap_cons, List.findSome?_append, List.findSome?_cons, ih]
      cases (parts item).findSome? find? <;> rfl

theorem findSome?_congr
    {items : List α}
    {find? other? : α → Option β}
    (h : ∀ item ∈ items, find? item = other? item) :
    items.findSome? find? = items.findSome? other? := by
  induction items with
  | nil =>
      rfl
  | cons item rest ih =>
      rw [List.findSome?_cons, List.findSome?_cons, h item List.mem_cons_self,
        ih fun other hother => h other (List.mem_cons_of_mem _ hother)]

end MathBlocks
