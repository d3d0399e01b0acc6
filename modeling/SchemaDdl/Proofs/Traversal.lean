/-
# Going through lists

Constraints, statements and changes are gone through one after another, and the first
failure ends it.  When such a traversal succeeds and with what is said here once:

* `exists_mapM_eq_ok` : a list is gone through if none of its elements fails;
* `mapM_eq_ok_iff_forall₂` : there is then one result for each element;
* `forall₂_or_exists_first_error` : otherwise there is a first that fails;
* `mapM_eq_error_iff` : a list fails as its first element that fails;
* `filterMap_append_perm` : what is picked from a list, wherever its elements stand;
* `collect_append`, `collect_flatMap`, `collect_map` : what is collected from a list is
  collected from its parts;
* `exists_collect_eq_ok` : where nothing is missing there is one result for each element.
-/
import Mathlib

namespace SchemaDdl

variable {α β ε : Type} {f g : α → Except ε β}

/-! ## Results for all elements -/

/-- The results of going through a list are those of its elements, one by one. -/
theorem mapM_eq_ok_iff_forall₂ {xs : List α} {ys : List β} :
    xs.mapM f = .ok ys ↔ List.Forall₂ (fun x y => f x = .ok y) xs ys := by
  constructor
  · intro hok
    induction xs generalizing ys with
    | nil =>
      cases hok
      exact .nil
    | cons x rest ih =>
      rw [List.mapM_cons] at hok
      cases hx : f x with
      | error cause =>
        rw [hx] at hok
        cases hok
      | ok y =>
        cases hrest : rest.mapM f with
        | error cause =>
          rw [hx, hrest] at hok
          cases hok
        | ok ys' =>
          rw [hx, hrest] at hok
          cases hok
          exact .cons hx (ih hrest)
  · intro h
    induction h with
    | nil => rfl
    | cons hx _ ih =>
      rw [List.mapM_cons, hx, ih]
      rfl

/-- A list is gone through without failure if each of its elements is. -/
theorem exists_mapM_eq_ok {xs : List α} (h : ∀ x ∈ xs, ∃ y, f x = .ok y) :
    ∃ ys, xs.mapM f = .ok ys := by
  induction xs with
  | nil => exact ⟨[], rfl⟩
  | cons x rest ih =>
    obtain ⟨y, hy⟩ := h x (by simp)
    obtain ⟨ys, hys⟩ := ih fun x' hx' => h x' (by simp [hx'])
    refine ⟨y :: ys, ?_⟩
    rw [List.mapM_cons, hy, hys]
    rfl

/-- A list is gone through without failure if each of its elements is, with one result for
each. -/
theorem exists_mapM_eq_ok_forall₂ {xs : List α} (h : ∀ x ∈ xs, ∃ y, f x = .ok y) :
    ∃ ys, xs.mapM f = .ok ys ∧ List.Forall₂ (fun x y => f x = .ok y) xs ys := by
  obtain ⟨ys, hys⟩ := exists_mapM_eq_ok h
  exact ⟨ys, hys, mapM_eq_ok_iff_forall₂.mp hys⟩

/-- In lists that are related one by one each element of the first has one of the second. -/
theorem exists_mem_of_forall₂ {R : α → β → Prop} {xs : List α} {ys : List β}
    (h : List.Forall₂ R xs ys) {x : α} (hx : x ∈ xs) : ∃ y ∈ ys, R x y := by
  induction h with
  | nil => simp at hx
  | cons hfirst _ ih =>
    rcases List.mem_cons.mp hx with rfl | hrest
    · exact ⟨_, List.mem_cons_self, hfirst⟩
    · obtain ⟨y, hy, hrelated⟩ := ih hrest
      exact ⟨y, List.mem_cons_of_mem _ hy, hrelated⟩

/-- Elements with one result each do not fail. -/
theorem exists_eq_ok_of_forall₂ {xs : List α} {ys : List β}
    (h : List.Forall₂ (fun x y => f x = .ok y) xs ys) {x : α} (hx : x ∈ xs) :
    ∃ y, f x = .ok y := by
  obtain ⟨y, _, hy⟩ := exists_mem_of_forall₂ h hx
  exact ⟨y, hy⟩

/-- A list is gone through alike by functions that agree on its elements. -/
theorem mapM_congr_of_mem {xs : List α} (h : ∀ x ∈ xs, f x = g x) : xs.mapM f = xs.mapM g := by
  induction xs with
  | nil => rfl
  | cons x rest ih =>
    have hrest : rest.mapM f = rest.mapM g := ih fun x' hx' => h x' (by simp [hx'])
    rw [List.mapM_cons, List.mapM_cons, h x (by simp), hrest]

/-- Two lists in a row are gone through if both are, first the one and then the other. -/
theorem mapM_append_eq_ok_iff {xs ys : List α} {zs : List β} :
    (xs ++ ys).mapM f = .ok zs ↔
      ∃ as bs, xs.mapM f = .ok as ∧ ys.mapM f = .ok bs ∧ zs = as ++ bs := by
  rw [List.mapM_append]
  cases xs.mapM f with
  | error cause => simp [bind, Except.bind]
  | ok as =>
    cases ys.mapM f with
    | error cause => simp [bind, Except.bind]
    | ok bs => simp [bind, Except.bind, pure, Except.pure, eq_comm]

/-! ## The first failure -/

/-- A function has a result for each element of a list, or for those before the first element
for which it fails. -/
theorem forall₂_or_exists_first_error (f : α → Except ε β) (xs : List α) :
    (∃ ys, List.Forall₂ (fun x y => f x = .ok y) xs ys) ∨
      ∃ before x after ys cause, xs = before ++ x :: after ∧
        List.Forall₂ (fun x y => f x = .ok y) before ys ∧ f x = .error cause := by
  induction xs with
  | nil => exact .inl ⟨[], .nil⟩
  | cons x rest ih =>
    cases hx : f x with
    | error cause => exact .inr ⟨[], x, rest, [], cause, rfl, .nil, hx⟩
    | ok y =>
      rcases ih with ⟨ys, hys⟩ | ⟨before, x', after, ys, cause, rfl, hys, hfailed⟩
      · exact .inl ⟨y :: ys, .cons hx hys⟩
      · exact .inr ⟨x :: before, x', after, y :: ys, cause, rfl, .cons hx hys, hfailed⟩

/-- Going through a list ends with the first failure. -/
theorem mapM_append_cons_eq_error {before : List α} {x : α} {cause : ε}
    (hbefore : ∀ x' ∈ before, ∃ y, f x' = .ok y) (hx : f x = .error cause) (after : List α) :
    (before ++ x :: after).mapM f = .error cause := by
  obtain ⟨ys, hys⟩ := exists_mapM_eq_ok hbefore
  rw [List.mapM_append, hys, List.mapM_cons, hx]
  rfl

/-- Going through a list fails exactly if it comes to an element that fails, and as this does. -/
theorem mapM_eq_error_iff {xs : List α} {cause : ε} :
    xs.mapM f = .error cause ↔
      ∃ before x after, xs = before ++ x :: after ∧ (∀ x' ∈ before, ∃ y, f x' = .ok y) ∧
        f x = .error cause := by
  constructor
  · intro hfailed
    rcases forall₂_or_exists_first_error f xs with
      ⟨ys, hys⟩ | ⟨before, x, after, ys, cause', rfl, hys, hx⟩
    · obtain ⟨ys', hok⟩ := exists_mapM_eq_ok fun x hx => exists_eq_ok_of_forall₂ hys hx
      rw [hok] at hfailed
      cases hfailed
    · have hbefore : ∀ x' ∈ before, ∃ y, f x' = .ok y :=
        fun x' hx' => exists_eq_ok_of_forall₂ hys hx'
      rw [mapM_append_cons_eq_error hbefore hx, Except.error.injEq] at hfailed
      exact ⟨before, x, after, rfl, hbefore, hfailed ▸ hx⟩
  · rintro ⟨before, x, after, rfl, hbefore, hx⟩
    exact mapM_append_cons_eq_error hbefore hx after

/-- Functions that fail alike for each element of a list fail alike for the list. -/
theorem map_unit_mapM_congr {γ : Type} {f : α → Except ε β} {g : α → Except ε γ} {xs : List α}
    (h : ∀ x ∈ xs, (f x).map (fun _ => ()) = (g x).map fun _ => ()) :
    (xs.mapM f).map (fun _ => ()) = (xs.mapM g).map fun _ => () := by
  induction xs with
  | nil => rfl
  | cons x rest ih =>
    have hx := h x (by simp)
    have hrest := ih fun x' hx' => h x' (by simp [hx'])
    rw [List.mapM_cons, List.mapM_cons]
    cases hf : f x <;> cases hg : g x <;> rw [hf, hg] at hx <;> simp [Except.map] at hx
    · rw [hx]
      rfl
    · cases hfs : rest.mapM f <;> cases hgs : rest.mapM g <;> rw [hfs, hgs] at hrest <;>
        simp_all [Except.map, bind, Except.bind, pure, Except.pure]

/-! ## Elements that are picked -/

/-- What is picked from a list comes from its first element and from the rest. -/
theorem filterMap_cons_eq_append (pick : α → Option β) (x : α) (rest : List α) :
    (x :: rest).filterMap pick = (pick x).toList ++ rest.filterMap pick := by
  rw [List.filterMap_eq_flatMap_toList, List.flatMap_cons, List.filterMap_eq_flatMap_toList]

/-- What is picked from a list that has one more element, wherever it stands. -/
theorem filterMap_append_perm (pick : α → Option β) (before : List α) (x : α)
    (after : List α) :
    ((before ++ after).filterMap pick ++ (pick x).toList).Perm
      ((before ++ x :: after).filterMap pick) := by
  rw [List.filterMap_append, List.filterMap_append, filterMap_cons_eq_append, List.append_assoc]
  exact List.perm_append_comm.append_left _

/-! ## Results that may be missing -/

/-- What is found for the elements of a list, in order.  An element for which there is
nothing is passed over. -/
def collect (find : α → Except ε (Option β)) (xs : List α) : Except ε (List β) :=
  (xs.mapM find).map List.reduceOption

section Collect

variable {γ δ : Type} {find : α → Except ε (Option β)}

/-- What is found for the first element comes before what the others give. -/
theorem collect_cons (x : α) (xs : List α) :
    collect find (x :: xs) = do return (← find x).toList ++ (← collect find xs) := by
  unfold collect
  rw [List.mapM_cons]
  cases find x with
  | error cause => rfl
  | ok found =>
    cases xs.mapM find with
    | error cause => rfl
    | ok rest => cases found <;> rfl

/-- Lists in a row are collected one after the other. -/
theorem collect_append (xs ys : List α) :
    collect find (xs ++ ys) = do return (← collect find xs) ++ (← collect find ys) := by
  unfold collect
  rw [List.mapM_append]
  cases xs.mapM find with
  | error cause => rfl
  | ok as =>
    cases ys.mapM find with
    | error cause => rfl
    | ok bs => simp [bind, Except.bind, pure, Except.pure, Except.map, List.reduceOption_append]

/-- Parts of a list are collected part by part. -/
theorem collect_flatMap {part : γ → List α} {xs : List γ} :
    collect find (xs.flatMap part) = (xs.mapM fun x => collect find (part x)).map List.flatten := by
  induction xs with
  | nil => rfl
  | cons x rest ih =>
    rw [List.flatMap_cons, collect_append, ih, List.mapM_cons]
    cases collect find (part x) with
    | error cause => rfl
    | ok first => cases rest.mapM fun x => collect find (part x) <;> rfl

/-- Where elements are looked up first, only those that are there are gone through. -/
theorem collect_map {element : γ → α} {look : γ → Option δ} {make : δ → Except ε β}
    {xs : List γ}
    (h : ∀ x, find (element x) = (look x).elim (.ok none) fun y => (make y).map some) :
    collect find (xs.map element) = (xs.filterMap look).mapM make := by
  induction xs with
  | nil => rfl
  | cons x rest ih =>
    rw [List.map_cons, collect_cons, h, ih, List.filterMap_cons]
    cases look x with
    | none => cases (rest.filterMap look).mapM make <;> rfl
    | some y =>
      dsimp only [Option.elim]
      rw [List.mapM_cons]
      cases make y <;> rfl

/-- Where nothing is missing, collecting is going through the list. -/
theorem collect_map_of_found {element : γ → α} {make : γ → Except ε β} {xs : List γ}
    (h : ∀ x, find (element x) = (make x).map some) :
    collect find (xs.map element) = xs.mapM make := by
  have hcollect : collect find (xs.map element) = (xs.filterMap some).mapM make :=
    collect_map h
  rw [hcollect, List.filterMap_some]

/-- What neither is missing nor fails is collected as it is. -/
theorem collect_map_of_pure {element : γ → α} {make : γ → β} {xs : List γ}
    (h : ∀ x, find (element x) = .ok (some (make x))) :
    collect find (xs.map element) = .ok (xs.map make) := by
  have hcollect : collect find (xs.map element) = xs.mapM fun x => .ok (make x) :=
    collect_map_of_found h
  rw [hcollect]
  exact List.mapM_pure

/-- Where no element fails and none is missing, one result is collected for each. -/
theorem exists_collect_eq_ok {xs : List α} (h : ∀ x ∈ xs, ∃ y, find x = .ok (some y)) :
    ∃ ys, collect find xs = .ok ys ∧ List.Forall₂ (fun x y => find x = .ok (some y)) xs ys := by
  induction xs with
  | nil => exact ⟨[], rfl, .nil⟩
  | cons x rest ih =>
    obtain ⟨y, hy⟩ := h x (by simp)
    obtain ⟨ys, hys, hrest⟩ := ih fun x' hx' => h x' (by simp [hx'])
    refine ⟨y :: ys, ?_, .cons hy hrest⟩
    rw [collect_cons, hy, hys]
    rfl

end Collect

end SchemaDdl
