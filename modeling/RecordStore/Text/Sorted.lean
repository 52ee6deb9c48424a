/-!
# Sorted texts

Names are listed in the order of their characters' codes.
-/

namespace RecordStore.Text

def sorted (texts : List String) : List String := texts.mergeSort fun a b => decide (a ≤ b)

end RecordStore.Text
