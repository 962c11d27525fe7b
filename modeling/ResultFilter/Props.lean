import ResultFilter.Dict

/-!
# Properties of a search result

A search result is known by its properties: its address, as a rule its title, and whatever else is
found on the page.

## Main definitions

* `Props` — the properties.
* `Props.url`, `Props.title?` — the two that rules without an expression look at.
-/

namespace ResultFilter

/-- The properties of a search result, by name. -/
abbrev Props := Dict Text

namespace Props

/-- The name of the address. -/
def urlName : Text := "url".toList

/-- The name of the title. -/
def titleName : Text := "title".toList

/-- The value of a property. -/
def get? (props : Props) (name : Text) : Option Text :=
  Dict.find? name props

/-- The address, empty if there is none. -/
def url (props : Props) : Text :=
  (props.get? urlName).getD []

/-- The title. -/
def title? (props : Props) : Option Text :=
  props.get? titleName

end Props

end ResultFilter
