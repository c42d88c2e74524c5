import Mathlib
import DeviceRegistry.Json.Tagged
import DeviceRegistry.Proofs.Json.Forms
import DeviceRegistry.Proofs.Number.Finite
/-!
# Tagged unions are read back

A printed tag selects the reader of its structure. With the tag beside the structure it
comes first, and nothing is put aside. With the tag among the fields, the other members
wait until the object ends. So they must be such that they can be put aside: not nested
deeply, and without a number that is too large.
-/

namespace DeviceRegistry.Json

variable {α : Type} {variants : Variants α}

/-! ## The tag beside the structure -/

theorem ofOutlineBeside_object {reader : Outline → Except Fault α}
    {tagName contentName tag : String} (distinct : contentName ≠ tagName)
    (known : variants tag = some reader) (content : Json) :
    variants.ofOutlineBeside tagName contentName
      (object [(tagName, .text tag), (contentName, content)]).outline = reader content.outline := by
  simp only [outline, memberOutlines, memberOutline, Variants.ofOutlineBeside, Beside.takeAll,
    Beside.take, Variants.select, known, distinct, if_true, if_false, Except.map, bind, Except.bind]
  rcases reader content.outline with fault | value <;> rfl

theorem survives_beside {β : Type} [Form β] {build : β → α} {tagName contentName tag : String}
    (distinct : contentName ≠ tagName)
    (known : variants tag = some fun outline => (Form.ofOutline outline).map build)
    {content : β} (survives : Survives content) :
    variants.ofOutlineBeside tagName contentName
      (object [(tagName, .text tag), (contentName, toJson content)]).outline =
        .ok (build content) := by
  apply (ofOutlineBeside_object distinct known _).trans
  exact congrArg (Except.map build) survives

/-! ## The tag among the fields -/

theorem canWait_ofNat {natural : Nat} (fits : natural < UInt64.size) :
    (number (.ofNat natural)).outline.canWait = true := by
  have length : (Digits.ofNat natural).length ≤ 20 :=
    Digits.length_ofNat_le (by decide) (fits.trans (by decide))
  have order : (Numeral.ofNat natural).order ≤ 100 := by
    simp only [Numeral.order, Numeral.ofNat, Option.elim_none]
    omega
  have read := Option.isSome_iff_ne_none.mpr (Double.ofNumeral?_ne_none order)
  simpa [outline, Outline.canWait, Outline.height, Outline.isSound] using read

theorem exists_of_mem_memberOutlines {members : List (String × Json)}
    {outlined : Option String × Outline} (listed : outlined ∈ memberOutlines members) :
    ∃ name value, (name, value) ∈ members ∧ outlined = (some name, value.outline) := by
  rw [memberOutlines_eq_map] at listed
  rcases List.mem_map.mp listed with ⟨⟨name, value⟩, present, rfl⟩
  exact ⟨name, value, present, rfl⟩

theorem ofOutlineAmong_object {reader : Outline → Except Fault α} {tagName tag : String}
    {members : List (String × Json)} (elsewhere : tagName ∉ members.map Prod.fst)
    (wait : ∀ member ∈ members, member.2.outline.canWait = true)
    (known : variants tag = some reader) :
    variants.ofOutlineAmong tagName (object ((tagName, .text tag) :: members)).outline =
      reader (.object (memberOutlines members) true) := by
  have others : ∀ member ∈ memberOutlines members, isTag tagName member = false := by
    intro outlined listed
    rcases exists_of_mem_memberOutlines listed with ⟨name, value, present, rfl⟩
    apply decide_eq_false
    intro same
    cases same
    exact elsewhere (List.mem_map_of_mem present)
  have tags : (memberOutlines members).filter (isTag tagName) = [] := by
    apply List.filter_eq_nil_iff.mpr
    intro member present
    simp [others member present]
  have fields : ((memberOutlines members).filter fun member => !isTag tagName member) =
      memberOutlines members := by
    apply List.filter_eq_self.mpr
    intro member present
    simp [others member present]
  have waiting : ∀ member ∈ memberOutlines members,
      (member.1.isSome && member.2.canWait) = true := by
    intro outlined listed
    rcases exists_of_mem_memberOutlines listed with ⟨name, value, present, rfl⟩
    exact wait (name, value) present
  have first : isTag tagName (some tagName, .text (some tag)) = true := by simp [isTag]
  simp only [outline, memberOutlines, memberOutline, Variants.ofOutlineAmong, List.filter_cons,
    first, Bool.not_true, Bool.false_eq_true, if_false, if_true, fields, tags, Bool.true_and,
    Variants.selectText, known]
  exact if_pos (List.all_eq_true.mpr waiting)

/-- Every field has a value that can be put aside. -/
def Fields.Wait : {values slots : Type} → Fields values slots → values → Prop
  | _, _, .nil, _ => True
  | _, _, .field _ _ form others, (value, values) =>
    (form.toJson value).outline.canWait = true ∧ others.Wait values

theorem Fields.canWait_of_wait {values slots : Type} {fields : Fields values slots}
    {fieldValues : values} (wait : fields.Wait fieldValues) :
    ∀ member ∈ fields.toMembers fieldValues, member.2.outline.canWait = true := by
  induction fields with
  | nil => simp [toMembers]
  | field name fallback form others hypothesis =>
    rcases fieldValues with ⟨value, fieldValues⟩
    rcases wait with ⟨here, wait⟩
    exact List.forall_mem_cons.mpr ⟨here, hypothesis wait⟩

theorem survives_among {values slots : Type} {fields : Fields values slots} {build : values → α}
    {tagName tag : String} (distinct : (tagName :: fields.names).Nodup)
    (known : variants tag = some fun outline => (fields.ofOutline outline).map build)
    (fieldValues : values) (survive : fields.Survive fieldValues)
    (wait : fields.Wait fieldValues) :
    variants.ofOutlineAmong tagName
      (object ((tagName, .text tag) :: fields.toMembers fieldValues)).outline =
        .ok (build fieldValues) := by
  rcases List.nodup_cons.mp distinct with ⟨elsewhere, distinctFields⟩
  rw [← fields.names_toMembers fieldValues] at elsewhere
  apply (ofOutlineAmong_object elsewhere (Fields.canWait_of_wait wait) known).trans
  have read := fields.ofMembers_toMembers distinctFields fieldValues
  rw [Fields.reread_of_survive survive] at read
  exact congrArg (Except.map build) read

end DeviceRegistry.Json
