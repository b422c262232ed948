/-! First occurrences in a list, by a key. -/

namespace ApiReference

def distinctOn {α : Type} (key : α → String) (seen : List String) : List α → List α
  | [] => []
  | a :: as =>
    if key a ∈ seen then distinctOn key seen as
    else a :: distinctOn key (key a :: seen) as

def distinct (ids : List String) : List String := distinctOn (fun id => id) [] ids

def textLe (a b : String) : Bool := decide (a ≤ b)

def sortTexts (texts : List String) : List String := texts.mergeSort textLe

end ApiReference
