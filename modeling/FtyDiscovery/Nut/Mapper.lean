import FtyDiscovery.Base.Regex
import FtyDiscovery.Base.Text

/-! The names that the attributes of a driver have in the inventory. -/

namespace FtyDiscovery.Nut

open Base

abbrev Mapping := Text → Option Text

namespace Mapper

/-- `(.*\.)(\d+)(\..*)`. -/
def indexed : Regex.Pattern Char :=
  .seq (.group 1 (.seq (.many Text.notLineEnd) (Regex.literal ['.'])))
    (.seq (.group 2 (Regex.plus Char.isDigit))
      (.group 3 (.seq (Regex.literal ['.']) (.many Text.notLineEnd))))

def map (inventoryMapping : Mapping) (key : Text) : Text := (inventoryMapping key).getD []

def putIndex (num mapped : Text) : Text :=
  mapped.flatMap (fun c => if c = '#' then num else [c])

/-- The replacement by `$1#$3` takes the groups of the match: a search from the start of the key
goes through the same attempts, and the last group runs to the end. -/
def mapKey (inventoryMapping : Mapping) (key : Text) : Text :=
  match Regex.fullMatch indexed key with
  | some found =>
      let num := Regex.capture found 2
      let repl := Regex.capture found 1 ++ '#' :: Regex.capture found 3
      let mapped := map inventoryMapping repl
      if !mapped.isEmpty then putIndex num mapped else map inventoryMapping key
  | none => map inventoryMapping key

theorem mapKey_of_not_indexed {inventoryMapping : Mapping} {key : Text}
    (missed : Regex.fullMatch indexed key = none) :
    mapKey inventoryMapping key = map inventoryMapping key := by
  simp only [mapKey, missed]

theorem mapKey_empty {inventoryMapping : Mapping} (absent : inventoryMapping [] = none) :
    mapKey inventoryMapping [] = [] := by
  rw [mapKey_of_not_indexed (by decide), map, absent, Option.getD_none]

end Mapper

end FtyDiscovery.Nut
