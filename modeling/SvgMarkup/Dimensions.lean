/-!
# Document dimensions

While a document is written, the width and height of its root element are noted.  Several elements
may qualify as root; a policy says whether the first or the last of them determines the result.
-/

namespace SvgMarkup

/-- Which root element's dimensions are kept when several have them. -/
inductive CapturePolicy where
  /-- The last one in document order. -/
  | last
  /-- The first one in document order. -/
  | first
deriving DecidableEq, Repr

namespace CapturePolicy

/-- The policies, in the order in which they are listed to users. -/
def all : List CapturePolicy := [.last, .first]

/-- The name that selects a policy. -/
def label : CapturePolicy → String
  | last => "last"
  | first => "first"

/-- The policy that a name selects. -/
def ofLabel? (name : String) : Option CapturePolicy :=
  all.find? (·.label == name)

@[simp] theorem ofLabel?_label (p : CapturePolicy) : ofLabel? p.label = some p := by
  cases p <;> decide

end CapturePolicy

/-- The attribute that holds the width of a root element. -/
def widthAttribute : String := "width"

/-- The attribute that holds the height of a root element. -/
def heightAttribute : String := "height"

theorem widthAttribute_ne : widthAttribute ≠ "" := by decide

theorem heightAttribute_ne : heightAttribute ≠ "" := by decide

theorem nodup_sizeAttributes : [widthAttribute, heightAttribute].Nodup := by decide

/-- The width and height of a root element, as the texts of its attributes. -/
structure Dimensions where
  width : Option String
  height : Option String
deriving DecidableEq, Repr

namespace Dimensions

/-- No dimensions are known. -/
def unknown : Dimensions := ⟨none, none⟩

/-- The dimensions of a root element with both attributes. -/
def ofTexts (width height : String) : Dimensions := ⟨some width, some height⟩

/-- Whether both the width and the height are known. -/
def captured (d : Dimensions) : Bool := d.width.isSome && d.height.isSome

/-- Combines dimensions with others that were found later in document order.  Dimensions that are
not complete give way to the others, complete ones compete under the policy. -/
def merged (d later : Dimensions) (policy : CapturePolicy) : Dimensions :=
  if !later.captured then d
  else if !d.captured then later
  else match policy with
    | .last => later
    | .first => d

@[simp] theorem captured_unknown : unknown.captured = false := rfl

@[simp] theorem captured_ofTexts (w h : String) : (ofTexts w h).captured = true := rfl

@[simp] theorem merged_unknown (d : Dimensions) (policy : CapturePolicy) :
    d.merged unknown policy = d := by
  simp [merged]

theorem unknown_merged (d : Dimensions) (policy : CapturePolicy) :
    unknown.merged d policy = if d.captured then d else unknown := by
  cases h : d.captured <;> simp [merged, h]

/-- How merges are grouped makes no difference, also where dimensions are not complete. -/
theorem merged_assoc (d e f : Dimensions) (policy : CapturePolicy) :
    (d.merged e policy).merged f policy = d.merged (e.merged f policy) policy := by
  cases hd : d.captured <;> cases he : e.captured <;> cases hf : f.captured <;> cases policy <;>
    simp [merged, hd, he, hf]

end Dimensions

end SvgMarkup
