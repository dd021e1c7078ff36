-- What the two sources of a preset state, said of the bytes of a file and of
-- the text of entries themselves. A file states a preset as a document, and
-- entries state one piece by piece. The readers are proved to find these
-- presets, and no others.
import HostBoundary.Proofs.Preset.Documents
import HostBoundary.Proofs.Preset.Grammar

namespace HostBoundary.Preset

/-! ## Files -/

namespace Document

open Json (IsDocument)

/-- The bytes of a file state a preset: by an object with its members, or by a
list with what they hold, in their places. -/
inductive Says : Bytes → Preset → Prop
  | object {text : String} {ms : List (String × Json.Value)} {p : Preset} :
      IsDocument text (.object ms) → IsPresetOf ms p → Says (Text.toBytes text) p
  | list {text : String} {vs : List Json.Value} {p : Preset} :
      IsDocument text (.list vs) → vs.length ≤ places.length →
      IsPresetOf ((places.map Member.name).zip vs) p → Says (Text.toBytes text) p

theorem Says.exists_text {contents : Bytes} {p : Preset} (h : Says contents p) :
    ∃ text, Text.toBytes text = contents ∧ ofDocument text = .ok p := by
  cases h with
  | object hms hp => exact ⟨_, rfl, (ofDocument_object hms).2 hp⟩
  | list hvs hlength hp => exact ⟨_, rfl, (ofDocument_list hvs).2 ⟨hlength, hp⟩⟩

theorem says_of_ofDocument {text : String} {p : Preset} (h : ofDocument text = .ok p) :
    Says (Text.toBytes text) p := by
  obtain ⟨parts, v, hlays, hv, -⟩ := ofDocument_eq_ok.1 h
  cases hlays with
  | object => exact .object hv ((ofDocument_object hv).1 h)
  | list =>
    obtain ⟨hlength, hp⟩ := (ofDocument_list hv).1 h
    exact .list hv hlength hp

/-- The reader of documents finds what the bytes of the text state. -/
theorem ofDocument_eq_ok_iff {text : String} {p : Preset} :
    ofDocument text = .ok p ↔ Says (Text.toBytes text) p := by
  constructor
  · exact says_of_ofDocument
  · intro h
    obtain ⟨text', hbytes, hp⟩ := h.exists_text
    rwa [Text.toBytes_inj hbytes] at hp

/-- Bytes state one preset at most. -/
theorem Says.unique {contents : Bytes} {p q : Preset} (hp : Says contents p)
    (hq : Says contents q) : p = q := by
  obtain ⟨text, rfl, hread⟩ := hp.exists_text
  rw [← ofDocument_eq_ok_iff, hread] at hq
  cases hq
  rfl

end Document

/-! ## Entries -/

namespace Spec

/-- The pieces of a text, between semicolons and commas. -/
def piecesOf (text : String) : List (List Char) :=
  text.toList.splitOnP fun c => c = ';' || c = ','

/-- The text of entries states a preset. Each of its pieces is blank or an
entry, and of the entries for a flag the last one stands. -/
structure Says (text : String) (p : Preset) : Prop where
  readable : ∀ piece ∈ piecesOf text, Readable piece
  version : p.version = none
  values : ∀ k name v, p.find? k name = some v ↔ LastStated (piecesOf text) k name v

theorem ofSpec_eq_readPieces (text : String) :
    ofSpec text = readPieces .empty (piecesOf text) := ofSpec_eq text

/-- Entries state one preset at most. -/
theorem Says.unique {text : String} {p q : Preset} (hp : Says text p) (hq : Says text q) :
    p = q := by
  apply eq_of_find?
  · rw [hp.version, hq.version]
  · exact fun k name => Option.ext fun v => (hp.values k name v).trans (hq.values k name v).symm

/-- The reader of entries finds what they state. -/
theorem ofSpec_eq_ok_iff {text : String} {p : Preset} : ofSpec text = .ok p ↔ Says text p := by
  have hstated : ∀ q, ofSpec text = .ok q → Says text q := by
    intro q hq
    rw [ofSpec_eq_readPieces] at hq
    refine ⟨exists_readPieces_iff.1 ⟨q, hq⟩, version_readPieces hq, ?_⟩
    intro k name v
    rw [find?_readPieces hq, find?_empty]
    simp
  constructor
  · exact hstated p
  · intro h
    obtain ⟨q, hq⟩ := (exists_readPieces_iff (p := .empty)).2 h.readable
    rw [← ofSpec_eq_readPieces] at hq
    rw [hq, h.unique (hstated q hq)]

/-- Where entries state no preset, the first fault is the error. -/
theorem ofSpec_eq_error_iff {text : String} {e : SpecError} :
    ofSpec text = .error e ↔ FirstFault (piecesOf text) e := by
  rw [ofSpec_eq_readPieces]
  exact readPieces_eq_error

end Spec

end HostBoundary.Preset
