import SvgMarkup.Proofs.Rendering.Capture

/-!
# Merging dimensions in groups

A pass finds dimensions in document order and merges them in groups: the children of one container
among themselves, and the outcome with what was found around them.  Merging is associative, but
there are no dimensions that leave all others alone from both sides: `unknown` gives way to complete
dimensions that follow it and suppresses incomplete ones.  Yet how the members of a list are grouped
makes no difference.

* `Dimensions.foldl_merged_chosen`: merging one after the other chooses from the complete ones.
* `Dimensions.mergedAll_map`: merging the outcomes of consecutive groups is merging all their
  members.
-/

namespace SvgMarkup.Dimensions

/-- The width and the height of dimensions that are complete. -/
def size? : Dimensions → Option (String × String)
  | ⟨some width, some height⟩ => some (width, height)
  | ⟨none, _⟩ | ⟨some _, none⟩ => none

lemma filterMap_size?_cons (d : Dimensions) (ds : List Dimensions) :
    (d :: ds).filterMap size? = d.size?.toList ++ ds.filterMap size? := by
  rw [List.filterMap_cons]
  cases d.size? <;> rfl

/-- What is left of dimensions that are found one after the other. -/
def mergedAll (policy : CapturePolicy) (ds : List Dimensions) : Dimensions :=
  ds.foldl (fun d later => d.merged later policy) unknown

variable (policy : CapturePolicy)

/-- Dimensions that come after a choice between sizes take part in it if they are complete. -/
lemma merged_chosen_right (sizes : List (String × String)) (d : Dimensions) :
    (chosen policy sizes).merged d policy = chosen policy (sizes ++ d.size?.toList) := by
  rcases d with ⟨_ | width, _ | height⟩
  case some.some =>
    have hsingle : (⟨some width, some height⟩ : Dimensions) = chosen policy [(width, height)] := by
      cases policy <;> rfl
    rw [hsingle, merged_chosen]
    cases policy <;> rfl
  -- incomplete dimensions are dropped
  all_goals exact congrArg (chosen policy) (List.append_nil sizes).symm

/-- Merging one after the other chooses from the sizes of those that are complete. -/
lemma foldl_merged_chosen (sizes : List (String × String)) (ds : List Dimensions) :
    ds.foldl (fun d later => d.merged later policy) (chosen policy sizes) =
      chosen policy (sizes ++ ds.filterMap size?) := by
  induction ds generalizing sizes with
  | nil => rw [List.filterMap_nil, List.append_nil, List.foldl_nil]
  | cons d ds ih =>
    rw [List.foldl_cons, merged_chosen_right, ih, filterMap_size?_cons, List.append_assoc]

lemma mergedAll_eq_chosen (ds : List Dimensions) :
    mergedAll policy ds = chosen policy (ds.filterMap size?) := by
  rw [mergedAll, ← chosen_nil policy, foldl_merged_chosen, List.nil_append]

/-- A second choice changes nothing. -/
lemma chosen_size?_chosen (sizes : List (String × String)) :
    chosen policy (chosen policy sizes).size?.toList = chosen policy sizes := by
  have h := merged_chosen_right policy [] (chosen policy sizes)
  rw [merged_chosen, List.nil_append, List.nil_append] at h
  exact h.symm

/-- Merging the outcomes of consecutive groups is merging all their members. -/
lemma mergedAll_map (pieces : List (List Dimensions)) :
    mergedAll policy (pieces.map (mergedAll policy)) = mergedAll policy pieces.flatten := by
  induction pieces with
  | nil => rfl
  | cons piece pieces ih =>
    rw [mergedAll_eq_chosen, mergedAll_eq_chosen] at ih ⊢
    rw [List.map_cons, filterMap_size?_cons, ← merged_chosen, ih, mergedAll_eq_chosen,
      chosen_size?_chosen, merged_chosen, ← List.filterMap_append, List.flatten_cons]

/-- Merging is associative, also where dimensions are incomplete.  Of dimensions that are merged one
after the other, starting without any, the last or the first complete ones are left, as the policy
says, or none; a width or a height is never left alone.  However a list is cut into consecutive
pieces, merging the outcomes of the pieces leaves what merging the whole list leaves. -/
theorem merged_grouped :
    (∀ d e f : Dimensions,
      (d.merged e policy).merged f policy = d.merged (e.merged f policy) policy) ∧
    (∀ ds : List Dimensions, mergedAll policy ds = chosen policy (ds.filterMap size?) ∧
      (mergedAll policy ds).width.isSome = (mergedAll policy ds).height.isSome) ∧
    ∀ pieces : List (List Dimensions),
      mergedAll policy (pieces.map (mergedAll policy)) = mergedAll policy pieces.flatten := by
  refine ⟨fun d e f => merged_assoc d e f policy, fun ds => ?_, mergedAll_map policy⟩
  have heq := mergedAll_eq_chosen policy ds
  refine ⟨heq, ?_⟩
  rw [heq]
  exact isSome_width_chosen policy _

end SvgMarkup.Dimensions
