import Mathlib.Data.List.Nodup
import DecisionTables.Model.Selection
import DecisionTables.Model.Source
import DecisionTables.Proofs.Outcome

/-!
# Contents of sources

A model is read from bytes or from a text. What it declares depends on that content alone and not on
the label of its source, and the ids of its decisions are distinct. The checksum of a text is that
of its UTF-8 form, so that a text shares its checksum with bytes, which may be read otherwise.
-/

namespace DecisionTables

/-! ## The bytes of a text -/

theorem byteList_loop (bytes : ByteArray) (index : Nat) (reversed : List UInt8) :
    ByteArray.toList.loop bytes index reversed =
      reversed.reverse ++ bytes.data.toList.drop index := by
  induction index, reversed using ByteArray.toList.loop.induct bytes with
  | case1 index reversed inside step =>
      rw [ByteArray.toList.loop, if_pos inside, step]
      have within : index < bytes.data.toList.length := inside
      rw [List.drop_eq_getElem_cons within, List.reverse_cons, List.append_assoc]
      congr 1
      rw [List.singleton_append, Array.getElem_toList]
      congr 1
      exact getElem!_pos bytes.data index inside
  | case2 index reversed outside =>
      rw [ByteArray.toList.loop, if_neg outside, List.drop_eq_nil_of_le (Nat.le_of_not_lt outside),
        List.append_nil]

/-- Texts with the same UTF-8 form are the same. -/
theorem utf8_injective {first second : String}
    (same : first.toUTF8.toList = second.toUTF8.toList) : first = second := by
  simp only [ByteArray.toList, byteList_loop, List.reverse_nil, List.nil_append,
    List.drop_zero] at same
  exact String.toByteArray_inj.mp (ByteArray.ext (Array.toList_inj.mp same))

/-! ## Contents -/

/-- What a model is read from. -/
inductive Content where
  | bytes (content : Bytes)
  | text (content : String)

namespace Content

/-- The bytes whose checksum identifies a content. -/
def encoded : Content → Bytes
  | .bytes content => content
  | .text content => content.toUTF8.toList

/-- The checksum of the models that are read from a content. -/
def checksum (content : Content) : String :=
  checksumOf content.encoded

def root : Content → Except Xml.ReadError Xml.Element
  | .bytes content => Xml.Element.ofBytes content
  | .text content => Xml.Element.ofText content

/-- The model that is read from a content under a label. -/
def model (label : String) (content : Content) : Except ModelError Model :=
  Model.ofOutcome label content.checksum content.root

/-- A source without a name that has a content. -/
def source : Content → ModelSource
  | .bytes content => .bytes content
  | .text content => .stream none (.text content)

def Declares (content : Content) (declared : List DecisionDefinition) : Prop :=
  ∃ root, content.root = .ok root ∧ Model.Document.decisions root = .ok declared

theorem Declares.unique {content : Content} {first second : List DecisionDefinition}
    (one : content.Declares first) (other : content.Declares second) : first = second := by
  rcases one with ⟨root, read, declared⟩
  rcases other with ⟨again, reread, redeclared⟩
  rw [read] at reread
  cases reread
  rw [declared] at redeclared
  cases redeclared
  rfl

/-- A model declares what its content does and carries the checksum of it. -/
theorem declares_of_model {content : Content} {label : String} {model : Model}
    (read : content.model label = .ok model) :
    content.Declares model.decisions ∧ model.checksum = content.checksum := by
  unfold Content.model Model.ofOutcome at read
  split at read
  · cases read
  · rename_i root found
    split at read
    · cases read
    · rename_i declaring
      cases read
      simp only [Model.ofElement, Except.bind_eq_ok_iff, Except.pure_eq_ok,
        Except.ok.injEq] at declaring
      rcases declaring with ⟨declared, decisions, rfl⟩
      exact ⟨⟨root, found, decisions⟩, rfl⟩

/-- What a content declares, a model that is read from it declares under any label. -/
theorem Declares.model {content : Content} {declared : List DecisionDefinition}
    (declares : content.Declares declared) (label : String) :
    ∃ model, content.model label = .ok model ∧ model.decisions = declared ∧
      model.checksum = content.checksum := by
  rcases declares with ⟨root, found, decisions⟩
  simp only [Content.model, found, Model.ofOutcome, Model.ofElement, decisions, Except.ok_bind,
    Except.pure_eq_ok]
  exact ⟨_, rfl, rfl, rfl⟩

end Content

/-! ## Distinct ids -/

namespace Model

open Document

theorem repeated?_eq_none {definitions : List DecisionDefinition} {seen : List String}
    (none : repeated? seen definitions = none) :
    (definitions.map DecisionDefinition.id).Nodup ∧ ∀ definition ∈ definitions,
      definition.id ∉ seen := by
  induction definitions generalizing seen with
  | nil =>
      constructor
      · exact List.nodup_nil
      · intro definition member
        cases member
  | cons definition rest ih =>
      simp only [repeated?] at none
      split at none
      · cases none
      · rename_i fresh
        obtain ⟨distinct, unseen⟩ := ih none
        constructor
        · rw [List.map_cons, List.nodup_cons]
          refine ⟨?_, distinct⟩
          intro member
          obtain ⟨other, among, same⟩ := List.mem_map.mp member
          exact unseen other among (same ▸ List.mem_cons_self)
        · intro other member
          cases member with
          | head =>
              intro member
              exact fresh (List.contains_iff_mem.mpr member)
          | tail _ member =>
              intro among
              exact unseen other member (List.mem_cons_of_mem _ among)

theorem decisions_nodup {root : Xml.Element} {declared : List DecisionDefinition}
    (decisions : Document.decisions root = .ok declared) :
    (declared.map DecisionDefinition.id).Nodup := by
  unfold Document.decisions at decisions
  split at decisions
  · cases decisions
  · obtain ⟨definitions, _, checked⟩ := Except.bind_eq_ok_iff.mp decisions
    split at checked
    · cases checked
    · rename_i unrepeated
      cases checked
      exact (repeated?_eq_none unrepeated).1

/-- If ids are distinct, each decision is the one that its id selects. -/
theorem select_of_distinct {model : Model} (distinct : model.decisionIds.Nodup)
    {definition : DecisionDefinition} (member : definition ∈ model.decisions) :
    model.select (some definition.id) = .ok definition := by
  cases found : model.decision? definition.id with
  | none =>
      have differs := List.find?_eq_none.mp found definition member
      exact absurd (beq_self_eq_true _) differs
  | some other =>
      have same : other.id = definition.id := by simpa using List.find?_some found
      have among : other ∈ model.decisions := List.mem_of_find?_eq_some found
      obtain rfl := List.inj_on_of_nodup_map distinct among member same
      simp only [select, found]

end Model

/-- Two decisions of a content with the same id are the same. -/
theorem Content.Declares.eq_of_id {content : Content} {declared : List DecisionDefinition}
    (declares : content.Declares declared) {first second : DecisionDefinition}
    (one : first ∈ declared) (other : second ∈ declared) (same : first.id = second.id) :
    first = second := by
  rcases declares with ⟨root, _, decisions⟩
  exact List.inj_on_of_nodup_map (Model.decisions_nodup decisions) one other same

/-- The ids of a model that is read from a content are distinct. -/
theorem Content.decisionIds_nodup {content : Content} {label : String} {model : Model}
    (read : content.model label = .ok model) : model.decisionIds.Nodup := by
  obtain ⟨⟨root, _, decisions⟩, _⟩ := declares_of_model read
  exact Model.decisions_nodup decisions

/-! ## Sources -/

/-- Whether a source has one of some contents, or none at all. A model stands for the content that
it was read from. -/
def ModelSource.DrawnFrom (contents : Content → Prop) : ModelSource → Prop
  | .bytes content => contents (.bytes content)
  | .stream _ (.bytes content) => contents (.bytes content)
  | .stream _ (.text content) => contents (.text content)
  | .stream _ .broken => True
  | .file _ (some content) => contents (.bytes content)
  | .file _ none => True
  | .model read => ∃ content label, contents content ∧ content.model label = .ok read
  | .unsupported _ => True

theorem Content.source_drawnFrom {contents : Content → Prop} {content : Content}
    (drawn : contents content) : content.source.DrawnFrom contents := by
  cases content with
  | bytes => exact drawn
  | text => exact drawn

theorem Content.ofSource_source (content : Content) :
    Model.ofSource content.source = content.model Model.anonymousLabel := by
  cases content with
  | bytes => rfl
  | text => rfl

/-- A model of a drawn source is read from one of the contents. -/
theorem ModelSource.DrawnFrom.content {contents : Content → Prop} {source : ModelSource}
    (drawn : source.DrawnFrom contents) {model : Model} (read : Model.ofSource source = .ok model) :
    ∃ content label, contents content ∧ content.model label = .ok model := by
  cases source with
  | bytes content => exact ⟨.bytes content, _, drawn, read⟩
  | stream name delivered =>
      cases delivered with
      | bytes content => exact ⟨.bytes content, _, drawn, read⟩
      | text content => exact ⟨.text content, _, drawn, read⟩
      | broken => cases read
  | file path content =>
      cases content with
      | some content => exact ⟨.bytes content, _, drawn, read⟩
      | none => cases read
  | model model =>
      cases read
      exact drawn
  | unsupported => cases read

end DecisionTables
