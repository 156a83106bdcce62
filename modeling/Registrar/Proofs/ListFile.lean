import Registrar.Exclusion.File
import Registrar.Proofs.WireFormat

/-! The contents of an exclusion file: a content is loaded exactly when it is a list, and each list
of records has a content that it is loaded from. -/
namespace Registrar
set_option autoImplicit false

open Json (Printable parse)

/-! ## Contents -/

/-- The records in a content; `none` when it is no list. -/
def ExclusionRecord.ofContent? (content : Bytes) : Option (List ExclusionRecord) :=
  if content.all isAsciiBlank then some [] else (readAll content).toOption

theorem ExclusionTable.load_content (path : String) (content : Bytes) (version : UInt64) :
    load path (.content content) version =
      match ExclusionRecord.ofContent? content with
      | some records => .ok (.ofRecords records version)
      | none => .error (.exclusionList path "malformed list") := by
  unfold load ExclusionRecord.ofContent?
  by_cases blank : content.all isAsciiBlank = true
  · simp only [blank, if_true]
    rfl
  · simp only [blank]
    cases ExclusionRecord.readAll content <;> rfl

theorem ExclusionTable.load_eq_ok_iff {path : String} {content : Bytes} {version : UInt64}
    {t : ExclusionTable} :
    load path (.content content) version = .ok t ↔
      ∃ records, ExclusionRecord.ofContent? content = some records ∧
        t = .ofRecords records version := by
  rw [load_content]
  cases ExclusionRecord.ofContent? content with
  | none => simp
  | some records => simp [eq_comm]

/-! ## Written lists -/

theorem textOfBytes?_utf8 (cs : List Char) :
    textOfBytes? (Text.utf8 cs) = some (String.ofList cs) := by
  have same : (⟨(Text.utf8 cs).toArray⟩ : ByteArray) = (String.ofList cs).toByteArray := by
    rw [String.toByteArray_ofList, ByteArray.ext_iff, List.utf8Encode, List.data_toByteArray]
    rfl
  rw [textOfBytes?, same, String.fromUTF8?, dif_pos (String.ofList cs).isValidUTF8]
  rfl

namespace ExclusionRecord

def listJson (records : List ExclusionRecord) : Json :=
  .array (records.map toJson)

def written (records : List ExclusionRecord) : Bytes :=
  Text.utf8 (listJson records).render

theorem asList_listJson (records : List ExclusionRecord) :
    Json.asList ofJson (listJson records) = .ok records :=
  Json.asList_map (fun r => r.reads (.same _)) records

theorem readAll_written (records : List ExclusionRecord) :
    readAll (written records) = .ok records := by
  have printable : Printable 2 (listJson records) :=
    .array _ (List.forall_mem_map.2 fun r _ => r.printable)
  have parsed : parse (String.ofList (listJson records).render) = listJson records :=
    Json.parse_text printable (by decide)
  rw [readAll, written, textOfBytes?_utf8]
  dsimp only
  rw [parsed, asList_listJson]

theorem ofContent?_written (records : List ExclusionRecord) :
    ofContent? (written records) = some records := by
  -- The text opens with a bracket, which is no blank.
  have inked : (written records).all isAsciiBlank = false := by
    rw [written, listJson, Json.render]
    rfl
  rw [ofContent?, inked, readAll_written]
  rfl

end ExclusionRecord

theorem ExclusionTable.load_written (path : String) (records : List ExclusionRecord)
    (version : UInt64) :
    load path (.content (ExclusionRecord.written records)) version =
      .ok (.ofRecords records version) := by
  rw [load_content, ExclusionRecord.ofContent?_written]

end Registrar
