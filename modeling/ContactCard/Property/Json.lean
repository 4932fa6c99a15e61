import ContactCard.JValue
import ContactCard.Property.Xml

/-!
# Values in jCard

How the value of a property is put into a jCard value and read from one. Of a
grouping only the first string counts, and empty groupings are passed over.
-/

namespace ContactCard.Property

def jValue (p : Property) : Noted JValue :=
  match p.body with
  | .text cls value =>
    let v : JValue := ⟨cls.dataType, [[value.getD ""]]⟩
    match cls with
    | .hooked hooks => ⟨v, hooks.onJson⟩
    | _ => ⟨v, []⟩
  | .list _ _ values => ⟨.ofTexts values, []⟩

def readJValue (p : Property) (v : JValue) : Property :=
  let heads := v.groupings.filterMap List.head?
  match p.body with
  | .text cls _ => { p with body := .text cls heads.head? }
  | .list cls separator _ => { p with body := .list cls separator heads }

end ContactCard.Property
