import WatchLink.Command
import WatchLink.Text.Commas

/-!
# The watch's menu

The watch describes its menu as a list of items, each shown or not, each on the first screen or
behind "more". The host edits one ordered list of codes, in which the code `more` stands between
the two parts; beside it stand all codes with their labels, and the code of the settings, which
must stay reachable.
-/

namespace WatchLink

/-- The menu as the host edits it. -/
structure MenuView where
  codes : List String
  labels : List String
  /-- What is shown, in order. -/
  enabled : List String
  settingsCode : Option String
  deriving DecidableEq, Repr

/-- Why a menu cannot be rebuilt. -/
inductive MenuError where
  | noCodes
  | mismatched (codes labels : Nat)
  deriving DecidableEq, Repr

namespace MenuView

/-- The code between the two parts. -/
def moreCode : String := "more"

/-- The codes of shown items, of one part of the menu. -/
def shown (items : List DisplayItem) (inMore : Bool) : List String :=
  (items.filter fun i => !i.disabled && i.inMoreSection == inMore).map DisplayItem.code

/-- The code of the last item that is the settings. -/
def settingsOf (items : List DisplayItem) : Option String :=
  (items.filter DisplayItem.isSettings).getLast?.map DisplayItem.code

/-- The view of a menu; labels lose their commas. -/
def ofItems (items : List DisplayItem) (moreLabel : String) : MenuView where
  codes := items.map DisplayItem.code ++ [moreCode]
  labels := items.map (fun i => Text.withoutCommas i.name) ++ [Text.withoutCommas moreLabel]
  enabled :=
    let more := shown items true
    shown items false ++ if more = [] then [] else moreCode :: more
  settingsCode := settingsOf items

/-- The label of a code, the last one given to it. -/
def label? (v : MenuView) (code : String) : Option String :=
  (v.codes.zip v.labels).reverse.lookup code

/-- What is shown, with the settings at the end if they were left out. -/
def completed (v : MenuView) : List String :=
  match v.settingsCode with
  | some code => if code ∈ v.enabled then v.enabled else v.enabled ++ [code]
  | none => v.enabled

/-- The shown items of a list of codes. From the first `more` on they are in the second part; a
code without a label is left out. -/
def enabledItems (v : MenuView) : Bool → List String → List DisplayItem
  | _, [] => []
  | inMore, code :: rest =>
    if code = moreCode then enabledItems v true rest
    else
      match v.label? code with
      | some label =>
        { code := code
          name := label
          disabled := false
          inMoreSection := inMore
          isSettings := v.settingsCode = some code } :: enabledItems v inMore rest
      | none => enabledItems v inMore rest

/-- The items that are not shown, in the watch's order. -/
def disabledItems (v : MenuView) : List DisplayItem :=
  ((v.codes.zip v.labels).filter fun entry =>
    entry.1 ≠ moreCode ∧ entry.1 ∉ v.completed).map fun entry =>
    { code := entry.1
      name := entry.2
      disabled := true
      inMoreSection := false
      isSettings := false }

def items (v : MenuView) : Except MenuError (List DisplayItem) :=
  if v.codes = [] then .error .noCodes
  else if v.codes.length ≠ v.labels.length then
    .error (.mismatched v.codes.length v.labels.length)
  else .ok (v.enabledItems false v.completed ++ v.disabledItems)

end MenuView

end WatchLink
