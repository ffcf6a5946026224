import OpenPulls.Proofs.Json.Records

/-!
# Reading back what was written

A value that was written is read back, in every layout that has only blanks between the parts.

* `ReadsBack`: a scanner reads a text as a value wherever the text stands: behind blanks, and before
  something that a value can end at.
* `laid`: the parts of an object or array between its brackets, with a gap before each. The layout
  without blanks and the one with a line for each part are both of this form (`compact_eq_laid`,
  `spread_eq_laid`).
* `ReadsBack.listOf`, `ReadsBack.record`: a list is read back if its elements are, and a record if
  the values of its fields are, which were written as the members of an object in the order of the
  fields (`Fields.Written`).

Reading the members of an object goes through its slots: each member fills the next one, and the
members behind it leave that alone since no two fields have the same name (`Fields.Written.fills`).
-/

namespace OpenPulls.Json

open OpenPulls.Text (Symbol)

variable {α β : Type}

/-! ## Values -/

/-- The scanner reads the text as the value, behind any blanks and before anything that a value can
end at. -/
structure ReadsBack (scan : Scanner α) (text : List Char) (a : α) : Prop where
  begins : Begins text
  scan_eq {gap : List Char} {rest : List Symbol} : Blanks gap → Stops rest →
    scan (symbolsOf gap ++ (symbolsOf text ++ rest)) = .ok (a, rest)

namespace ReadsBack

variable {scan : Scanner α} {text : List Char} {a : α}

/-- A scanner that begins with skipping blanks need not be looked at behind blanks. -/
theorem of_skips (hskips : ∀ text, scan (skipBlanks text) = scan text) (hb : Begins text)
    (h : ∀ rest, Stops rest → scan (symbolsOf text ++ rest) = .ok (a, rest)) :
    ReadsBack scan text a where
  begins := hb
  scan_eq {gap rest} hgap hrest := by
    rw [← hskips, skipBlanks_symbolsOf hgap, hskips, h rest hrest]

theorem map (h : ReadsBack scan text a) (f : α → β) : ReadsBack (Json.map f scan) text (f a) where
  begins := h.begins
  scan_eq hgap hrest := by rw [Json.map, h.scan_eq hgap hrest]; rfl

/-- A text that is read back is decoded, also between blanks. -/
theorem decode_eq (h : ReadsBack scan text a) {gap last : List Char} (hgap : Blanks gap)
    (hlast : Blanks last) : decode scan (symbolsOf (gap ++ text ++ last)) = .ok a := by
  have hstops : Stops (symbolsOf last) := by
    cases last with
    | nil => trivial
    | cons c last => exact .inl (hlast c List.mem_cons_self)
  have hskip : skipBlanks (symbolsOf last) = [] := by
    have h := skipBlanks_symbolsOf hlast []
    rwa [List.append_nil] at h
  rw [symbolsOf_append, symbolsOf_append, List.append_assoc, decode, h.scan_eq hgap hstops]
  show (if (skipBlanks (symbolsOf last)).isEmpty then _ else _) = _
  rw [hskip]
  rfl

end ReadsBack

theorem readsBack_text (s : String) : ReadsBack Json.text (writtenString s) s := by
  refine .of_skips (fun text => ?_) ⟨_, _, _, rfl, rfl⟩ fun rest _ => text_written s rest
  rw [Json.text, Json.text, skipBlanks_skipBlanks]

theorem readsBack_unsigned (n : UInt64) : ReadsBack unsigned (writtenNumber n) n := by
  obtain ⟨c, cs, hcs, hc⟩ := exists_digit_cons n.toNat
  have hs : symbolsOf (writtenNumber n) = .char c :: symbolsOf cs := by
    rw [writtenNumber, hcs, symbolsOf_cons]
  refine .of_skips (fun text => ?_) ⟨_, _, _, hs, kindOf?_digit hc⟩ fun rest hrest => ?_
  · rw [unsigned, unsigned, skipBlanks_skipBlanks]
  · have hle : n.toNat ≤ maxUnsigned := Nat.le_sub_one_of_lt n.toNat_lt
    rw [hs, List.cons_append, unsigned_eq_ok_iff (kindOf?_digit hc), number, ← List.cons_append,
      ← hs, writtenNumber, unsignedPart_of_le true hle hrest.endsDigits,
      finishInteger_of_stops _ hrest]
    · simp
    · intro more heq
      cases heq
      cases hc

/-! ## Parts with gaps -/

/-- An object or array with a gap before each part, and another one before its closing bracket if
there are parts. -/
def laid (gap last : List Char) (opening closing : Char) (parts : List (List Char)) : List Char :=
  opening :: spaced gap true parts ++ (if parts = [] then [] else last) ++ [closing]

theorem compact_eq_laid (opening closing : Char) (parts : List (List Char)) :
    compact opening closing parts = laid [] [] opening closing parts := by
  cases parts with
  | nil => rfl
  | cons part parts => simp [compact, laid, spaced_cons]

theorem spread_eq_laid (level : Nat) (opening closing : Char) (parts : List (List Char)) :
    spread level opening closing parts =
      laid (newLine (level + 1)) (newLine level) opening closing parts := by
  cases parts with
  | nil => rfl
  | cons part parts => simp [spread, laid, spaced_cons]

section Spaced

variable {gap last : List Char} {parts : List (List Char)} {rest : List Symbol}

theorem blanks_last (h : Blanks last) (parts : List (List Char)) :
    Blanks (if parts = [] then [] else last) := by
  split
  · exact blanks_nil
  · exact h

/-- A part ends where the next one begins, or the gap before the closing bracket, or that. -/
theorem stops_spaced (hlast : Blanks last) {closing : Char} (h : closing = ']' ∨ closing = '\x7d') :
    Stops (symbolsOf (spaced gap false parts) ++ (symbolsOf last ++ .char closing :: rest)) := by
  cases parts with
  | nil =>
    cases last with
    | nil => rcases h with rfl | rfl <;> simp [spaced, Stops]
    | cons c last => exact .inl (hlast c List.mem_cons_self)
  | cons part parts => exact .inr (.inl rfl)

theorem symbolsOf_laid (opening closing : Char) :
    symbolsOf (laid gap last opening closing parts) ++ rest =
      .char opening :: (symbolsOf (spaced gap true parts) ++
        (symbolsOf (if parts = [] then [] else last) ++ .char closing :: rest)) := by
  simp [laid]

end Spaced

/-! ## Lists -/

section Elements

variable {gap last : List Char} {scan : Scanner α}

/-- The elements are read behind what was read before, and the list ends at its bracket. -/
theorem elements_spaced (hgap : Blanks gap) (hlast : Blanks last) {texts : List (List Char)}
    {as : List α} (h : List.Forall₂ (ReadsBack scan) texts as) (read : List α)
    (rest : List Symbol) :
    elements scan read (symbolsOf (spaced gap read.isEmpty texts)
      ++ (symbolsOf last ++ .char ']' :: rest)) = .ok (read.reverse ++ as, rest) := by
  induction h generalizing read with
  | nil =>
    have hend : skipBlanks (symbolsOf last ++ .char ']' :: rest) = .char ']' :: rest :=
      skipBlanks_symbolsOf hlast _
    have hnone : nextElement read.isEmpty (symbolsOf last ++ .char ']' :: rest) = .ok none := by
      rw [← nextElement_skipBlanks, hend, nextElement_closing]
    rw [spaced, symbolsOf_nil, List.nil_append, elements, hnone, List.append_nil, endSequence, hend]
    rfl
  | @cons text a texts as ha _ ih =>
    have hstops : Stops (symbolsOf (spaced gap false texts)
        ++ (symbolsOf last ++ .char ']' :: rest)) := stops_spaced hlast (.inl rfl)
    have hread := ha.scan_eq blanks_nil hstops
    refine (elements_step (nextElement_spaced hgap ha.begins _ _) fun b more hb => ?_).mpr
      ⟨a, _, hread, ?_⟩
    · rw [symbolsOf_nil, List.nil_append, hb] at hread
      cases hread
      exact length_lt_spaced ha.begins _
    · simpa using ih (a :: read)

/-- A list is read back from the array that has its elements as items. -/
theorem ReadsBack.listOf (hgap : Blanks gap) (hlast : Blanks last) {texts : List (List Char)}
    {as : List α} (h : List.Forall₂ (ReadsBack scan) texts as) :
    ReadsBack (Json.listOf scan) (laid gap last '[' ']' texts) as := by
  refine .of_skips (fun text => ?_) ⟨_, _, _, rfl, rfl⟩ fun rest _ => ?_
  · rw [Json.listOf, Json.listOf, skipBlanks_skipBlanks]
  · rw [symbolsOf_laid]
    exact elements_spaced hgap (blanks_last hlast texts) h [] rest

end Elements

/-! ## Records -/

namespace Fields

/-- The members of an object are read one after another: from the first slots they lead to the
last. -/
inductive Fills (fs : Fields α) : fs.Slots → Members → fs.Slots → Prop
  | nil (slots : fs.Slots) : Fills fs slots [] slots
  | cons {slots between slots' : fs.Slots} {m : String × List Char} {ms : Members} :
      (∀ gap rest, Blanks gap → Stops rest →
        fs.member m.1 slots (.char ':' :: (symbolsOf gap ++ (symbolsOf m.2 ++ rest))) =
          .ok (between, rest)) →
      Fills fs between ms slots' → Fills fs slots (m :: ms) slots'

/-- The values of the fields were written as these members, in the order of the fields. -/
inductive Written : {α : Type} → Fields α → Members → α → Prop
  | nil : Written .nil [] ()
  | cons {α β : Type} {f : Field β} {fs : Fields α} {text : List Char} {b : β} {ms : Members}
      {a : α} : ReadsBack f.decode text b → Written fs ms a →
      Written (.cons f fs) ((f.name, text) :: ms) (b, a)

theorem Written.names {fs : Fields α} {ms : Members} {a : α} (h : fs.Written ms a) :
    ms.map Prod.fst = fs.names := by
  induction h with
  | nil => rfl
  | cons _ _ ih => rw [List.map_cons, ih, Fields.names]

/-- Members of other names leave the slot of a field alone. -/
theorem Fills.cons_field {fs : Fields α} {slots slots' : fs.Slots} {ms : Members}
    (h : fs.Fills slots ms slots') {f : Field β} (hf : f.name ∉ ms.map Prod.fst)
    (slot : Option β) : (Fields.cons f fs).Fills (slot, slots) ms (slot, slots') := by
  induction h with
  | nil slots => exact @Fills.nil _ (.cons f fs) (slot, slots)
  | @cons slots between slots' m ms hm _ ih =>
    rw [List.map_cons, List.mem_cons, not_or] at hf
    refine Fills.cons (fun gap rest hgap hrest => ?_) (ih hf.2)
    rw [member_of_ne f fs slot slots _ (Ne.symm hf.1), hm gap rest hgap hrest]
    rfl

/-- The members of the fields fill all slots with their values. -/
theorem Written.fills {fs : Fields α} {ms : Members} {a : α} (h : fs.Written ms a)
    (hnames : fs.names.Nodup) :
    ∃ slots, fs.Fills fs.noSlots ms slots ∧ fs.finish slots = .ok a := by
  induction h with
  | nil => exact ⟨(), @Fills.nil _ .nil (), rfl⟩
  | @cons α β f fs text b ms a hb hms ih =>
    obtain ⟨hname, hnames⟩ := List.nodup_cons.mp hnames
    obtain ⟨slots, hfills, hfinish⟩ := ih hnames
    have hrest := hfills.cons_field (hms.names ▸ hname) (some b)
    refine ⟨(some b, slots), Fills.cons (fun gap rest hgap hrest => ?_) hrest,
      (finish_cons f fs).mpr ⟨rfl, hfinish⟩⟩
    show (Fields.cons f fs).member f.name (none, fs.noSlots) _ = _
    rw [member_self, Option.isSome_none, if_neg Bool.false_ne_true, hb.scan_eq hgap hrest]
    rfl

/-- All members are read, up to the closing brace. -/
theorem members_spaced {gap last colonGap : List Char} (hgap : Blanks gap) (hlast : Blanks last)
    (hcolon : Blanks colonGap) {fs : Fields α} {slots slots' : fs.Slots} {ms : Members}
    (h : fs.Fills slots ms slots') (first : Bool) (rest : List Symbol) :
    fs.members first slots (symbolsOf (spaced gap first (ms.map (Json.member colonGap)))
        ++ (symbolsOf last ++ .char '\x7d' :: rest)) =
      .ok (slots', symbolsOf last ++ .char '\x7d' :: rest) := by
  induction h generalizing first with
  | nil slots =>
    have hend : skipBlanks (symbolsOf last ++ .char '\x7d' :: rest) = .char '\x7d' :: rest :=
      skipBlanks_symbolsOf hlast _
    have hnone : nextKey first (symbolsOf last ++ .char '\x7d' :: rest) = .ok none := by
      rw [nextKey, hend]
      rfl
    rw [List.map_nil, spaced, symbolsOf_nil, List.nil_append, members, hnone]
  | @cons slots between slots' m ms hm _ ih =>
    have hstops : Stops (symbolsOf (spaced gap false (ms.map (Json.member colonGap)))
        ++ (symbolsOf last ++ .char '\x7d' :: rest)) := stops_spaced hlast (.inr rfl)
    have hread := hm colonGap _ hcolon hstops
    refine (members_step fs (nextKey_spaced hgap first m) (string_written _ m.1)
      fun other more hmore => ?_).mpr ⟨between, _, hread, ih false⟩
    rw [hread] at hmore
    cases hmore
    exact length_lt_spaced (begins_member colonGap m) first

end Fields

/-- A record is read back from the object that has its fields as members. -/
theorem ReadsBack.record {fs : Fields α} {ms : Members} {a : α} (h : fs.Written ms a)
    (hnames : fs.names.Nodup) (name : String) {gap last colonGap : List Char} (hgap : Blanks gap)
    (hlast : Blanks last) (hcolon : Blanks colonGap) :
    ReadsBack (Json.record name fs)
      (laid gap last '\x7b' '\x7d' (ms.map (member colonGap))) a := by
  refine .of_skips (fun text => ?_) ⟨_, _, _, rfl, rfl⟩ fun rest _ => ?_
  · rw [Json.record, Json.record, skipBlanks_skipBlanks]
  · obtain ⟨slots, hfills, hfinish⟩ := h.fills hnames
    have hlast' := blanks_last hlast (ms.map (member colonGap))
    have hread := Fields.members_spaced hgap hlast' hcolon hfills true rest
    have hend : Fields.endObject (symbolsOf (if ms.map (member colonGap) = [] then [] else last)
        ++ .char '\x7d' :: rest) = .ok rest := by
      rw [Fields.endObject, skipBlanks_symbolsOf hlast']
      rfl
    rw [symbolsOf_laid]
    refine bind_eq_ok.mpr ⟨_, hread, bind_eq_ok.mpr ⟨a, hfinish, ?_⟩⟩
    exact bind_eq_ok.mpr ⟨rest, hend, rfl⟩

end OpenPulls.Json
