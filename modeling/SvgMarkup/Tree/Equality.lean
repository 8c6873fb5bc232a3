import SvgMarkup.Tree.Basic

/-!
# The equality of trees

Two nodes are equal if they are of one type and their parts are equal.  Attribute values are
compared as dynamic values, so that `1`, `1.0` and `true` are equal although they are written
differently.  Objects of other programs are equal to none.
-/

namespace SvgMarkup

/-- Whether two attributes have the same name and equal values. -/
def Attribute.same (a b : Attribute) : Bool :=
  a.name == b.name && a.value.toValue.same b.value.toValue

/-- Whether two lists of attributes are equal, one by one. -/
def Attribute.sameList : List Attribute → List Attribute → Bool
  | [], [] => true
  | a :: as, b :: bs => a.same b && sameList as bs
  | _, _ => false

/-- Whether two tags have the same name and equal attributes in the same order. -/
def Tag.same (t u : Tag) : Bool :=
  t.name == u.name && Attribute.sameList t.attributes u.attributes

namespace Node

mutual

/-- Whether two nodes are equal. -/
def same : Node → Node → Bool
  | element t cs, element u ds => t.same u && sameList cs ds
  | text s, text t | comment s, comment t | cdata s, cdata t | doctype s, doctype t => s == t
  | instruction i, instruction j => i == j
  | document cs, document ds => sameList cs ds
  | bareAttribute a, bareAttribute b => a.same b
  | value v, value w => v.same w
  | _, _ => false

/-- Whether two lists of nodes are equal, one by one. -/
def sameList : List Node → List Node → Bool
  | [], [] => true
  | n :: ns, m :: ms => same n m && sameList ns ms
  | _, _ => false

end

end Node

end SvgMarkup
