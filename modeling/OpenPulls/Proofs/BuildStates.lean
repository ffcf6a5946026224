import OpenPulls.Proofs.Json.Spellings
import OpenPulls.Proofs.PageFormat

/-!
# Which texts are build states

A build state is given by its name in JSON, as a string or as the only key of an object. Every name
is a state, and only three of them are states of their own.

* `SaysName`: the texts that give a name.
* `ofJson_eq_ok_iff`: these are read, each as the state with that name.
* `ofJson_classified`: the texts for each of the states, and the texts for none.
-/

namespace OpenPulls.BuildState

open Rest (StateName stateName_iff)

/-- A text gives a name: it spells the name of a variant, with blanks before and after it. -/
def SaysName (text name : String) : Prop :=
  ∃ gap spelled last, Json.Blanks gap ∧ Json.Blanks last ∧ Json.SpellsVariant spelled name ∧
    text.toList = gap ++ spelled ++ last

theorem symbolsOf_injective {cs ds : List Char} (h : Json.symbolsOf cs = Json.symbolsOf ds) :
    cs = ds :=
  List.map_injective_iff.mpr (fun _ _ => Text.Symbol.char.inj) h

theorem decode_variant_eq_ok_iff_saysName {text name : String} :
    Json.decode Json.variant (Text.symbols text) = .ok name ↔ SaysName text name := by
  rw [Json.decode_variant_eq_ok_iff]
  constructor
  · rintro ⟨gap, spelled, last, hgap, hlast, hspelled, htext⟩
    exact ⟨gap, spelled, last, hgap, hlast, hspelled, symbolsOf_injective htext⟩
  · rintro ⟨gap, spelled, last, hgap, hlast, hspelled, htext⟩
    exact ⟨gap, spelled, last, hgap, hlast, hspelled, congrArg Json.symbolsOf htext⟩

/-- A text gives at most one name. -/
theorem SaysName.unique {text name name' : String} (h : SaysName text name)
    (h' : SaysName text name') : name = name' := by
  have hname := decode_variant_eq_ok_iff_saysName.mpr h
  have hname' := decode_variant_eq_ok_iff_saysName.mpr h'
  exact Except.ok.inj (hname.symm.trans hname')

theorem saysName_written (name : String) :
    SaysName (String.ofList (Json.writtenString name)) name := by
  have hread : Json.string (Json.symbolsOf (name.toList.flatMap Json.writtenChar ++ ['"']) ++ []) =
      .ok (name, []) := Json.string_written [] name
  obtain ⟨inner, hinner, htext⟩ := Json.string_eq_ok_iff.mp hread
  have hwritten : name.toList.flatMap Json.writtenChar ++ ['"'] = inner ++ ['"'] :=
    symbolsOf_injective (by simpa using htext)
  refine ⟨[], Json.writtenString name, [], Json.blanks_nil, Json.blanks_nil, .string ?_, by simp⟩
  rw [Json.writtenString, List.cons_append, hwritten]
  exact .quoted hinner

/-- **Exactly the texts that give a name are read**, as the state with that name. -/
theorem ofJson_eq_ok_iff {text : String} {s : BuildState} :
    ofJson text = .ok s ↔ ∃ name, SaysName text name ∧ StateName name s := by
  have hmap : ofJson text = (Json.decode Json.variant (Text.symbols text)).map ofName := by
    simp only [ofJson, decoder, Json.decode, Json.map]
    cases Json.variant (Text.symbols text) with
    | error e => rfl
    | ok read =>
      show (if _ then _ else _ : Except Json.Error BuildState) = Except.map _ (if _ then _ else _)
      split <;> rfl
  simp only [hmap, ← decode_variant_eq_ok_iff_saysName, stateName_iff]
  cases Json.decode Json.variant (Text.symbols text) <;> simp [Except.map, eq_comm]

/-- **Only the exact name of a state counts as that state.** Every other name is a state without a
name of its own, a text that gives no name is an error, and what is written for a state is read back
as that state. -/
theorem ofJson_classified (text : String) :
    (ofJson text = .ok .successful ↔ SaysName text "SUCCESSFUL") ∧
    (ofJson text = .ok .failed ↔ SaysName text "FAILED") ∧
    (ofJson text = .ok .inProgress ↔ SaysName text "INPROGRESS") ∧
    (ofJson text = .ok .other ↔
      ∃ name ∉ ["SUCCESSFUL", "FAILED", "INPROGRESS"], SaysName text name) ∧
    ((∃ e, ofJson text = .error e) ↔ ∀ name, ¬ SaysName text name) ∧
    ∀ s : BuildState, ofJson s.jsonText = .ok s := by
  have hnamed {s : BuildState} {known : String}
      (h : ∀ name, StateName name s ↔ name = known) :
      ofJson text = .ok s ↔ SaysName text known := by
    simp [ofJson_eq_ok_iff, h]
  refine ⟨hnamed fun name => ?_, hnamed fun name => ?_, hnamed fun name => ?_, ?_, ?_, ?_⟩
  · exact ⟨fun | .successful => rfl, fun h => h ▸ .successful⟩
  · exact ⟨fun | .failed => rfl, fun h => h ▸ .failed⟩
  · exact ⟨fun | .inProgress => rfl, fun h => h ▸ .inProgress⟩
  · rw [ofJson_eq_ok_iff]
    constructor
    · rintro ⟨name, hname, ⟨⟩⟩
      exact ⟨name, ‹_›, hname⟩
    · rintro ⟨name, hother, hname⟩
      exact ⟨name, hname, .other hother⟩
  · constructor
    · rintro ⟨e, he⟩ name hname
      have hok := ofJson_eq_ok_iff.mpr ⟨name, hname, stateName_iff.mpr rfl⟩
      rw [hok] at he
      cases he
    · intro h
      cases hread : ofJson text with
      | error e => exact ⟨e, rfl⟩
      | ok s =>
        obtain ⟨name, hname, -⟩ := ofJson_eq_ok_iff.mp hread
        exact absurd hname (h name)
  · intro s
    exact ofJson_eq_ok_iff.mpr ⟨s.name, saysName_written s.name, stateName_iff.mpr (by simp)⟩

end OpenPulls.BuildState
