import OpenPulls.Proofs.Json.Skipping

/-!
# Decoding written records

A record is written as an object that gives each of its fields at most once, or as an array of
exactly all of them. Whatever else is in the object is passed over.

* `RecordOf fs`: the shape of a record with the fields `fs`.
* `decodes_record`: the decoder of the record decodes that shape, if no two fields have one name.
* `decodes_variant`: the same for the name of a variant.

While an object is read, each field has a slot. `Fields.Fill` says how the members of an object
change the slots. One member changes them as the decoder does (`member_eq_ok_iff`), a list of
members does so one after the other (`fill_cons`), and what the slots hold in the end are the values
of the fields (`exists_fill_iff`).
-/

namespace OpenPulls.Json

open OpenPulls.Text (Symbol)

variable {α β : Type}

/-! ## Shapes of fields -/

/-- The decoder reads the value at the tree, with nothing behind it. -/
def Reads (scan : Scanner α) (t : Tree) (a : α) : Prop :=
  scan (symbolsOf t.written) = .ok (a, [])

theorem Decodes.reads_iff {scan : Scanner α} {R : Tree → α → Prop} (h : Decodes scan R) {t : Tree}
    {a : α} : Reads scan t a ↔ R t a := by
  have ht := h t [] trivial a []
  rw [List.append_nil] at ht
  rw [Reads, ht, and_iff_left rfl]

/-- A decoder of a shape has no other. -/
theorem Decodes.reads {scan : Scanner α} {R : Tree → α → Prop} (h : Decodes scan R) :
    Decodes scan (Reads scan) := by
  intro t rest hrest a rest'
  rw [h t rest hrest, h.reads_iff]

/-- The value of a field, from the values of all members with its name. -/
inductive Field.Given (f : Field α) : List Tree → α → Prop where
  | once {t : Tree} {a : α} (h : Reads f.decode t a) : f.Given [t] a
  | lacking {a : α} (h : f.absent = some a) : f.Given [] a

section Given

variable {scan : Scanner α} {R : Tree → α → Prop} {name : String} {members : List (String × Tree)}

theorem given_required_iff (h : Decodes scan R) {a : α} :
    (required name scan).Given (valuesOf name members) a ↔ Once name R members a := by
  constructor
  · generalize hts : valuesOf name members = ts
    rintro (⟨ha⟩ | ⟨⟨⟩⟩)
    exact ⟨_, hts, h.reads_iff.mp ha⟩
  · rintro ⟨t, ht, ha⟩
    rw [ht]
    exact .once (h.reads_iff.mpr ha)

theorem given_mayLack_iff (h : Decodes scan R) {a : Option α} :
    (mayLack name scan).Given (valuesOf name members) a ↔ AtMostOnce name R members a := by
  constructor
  · generalize hts : valuesOf name members = ts
    rintro (⟨ha⟩ | ⟨ha⟩)
    · exact .inr ⟨_, hts, h.optional.reads_iff.mp ha⟩
    · cases ha
      exact .inl ⟨hts, rfl⟩
  · rintro (⟨hts, rfl⟩ | ⟨t, ht, ha⟩)
    · rw [hts]
      exact .lacking rfl
    · rw [ht]
      exact .once (h.optional.reads_iff.mpr ha)

end Given

namespace Fields

/-- The names of the fields. -/
def names : {α : Type} → Fields α → List String
  | _, .nil => []
  | _, .cons f rest => f.name :: rest.names

/-- The decoder of each field is one of a shape. -/
def HaveShapes : {α : Type} → Fields α → Prop
  | _, .nil => True
  | _, .cons f rest => Decodes f.decode (Reads f.decode) ∧ rest.HaveShapes

/-- The values of the fields, in an object. -/
def InObject : {α : Type} → Fields α → List (String × Tree) → α → Prop
  | _, .nil, _, _ => True
  | _, @cons _ β f rest, members, as =>
    let as : β × _ := as
    f.Given (valuesOf f.name members) as.1 ∧ rest.InObject members as.2

/-- The values of the fields, in an array. -/
def InArray : {α : Type} → Fields α → List Tree → α → Prop
  | _, .nil, items, _ => items = []
  | _, @cons _ β f rest, items, as =>
    let as : β × _ := as
    ∃ t ts, items = t :: ts ∧ Reads f.decode t as.1 ∧ rest.InArray ts as.2

end Fields

/-- The shape of a record. -/
inductive RecordOf (fs : Fields α) : Tree → α → Prop where
  | object {members : List (String × Tree)} {a : α} (h : fs.InObject members a) :
      RecordOf fs (.object members) a
  | array {items : List Tree} {a : α} (h : fs.InArray items a) : RecordOf fs (.array items) a

/-! ## Slots -/

/-- How the slot of a field changes while the values of all members with its name are read. -/
inductive Field.Fill (f : Field α) : List Tree → Option α → Option α → Prop where
  | none {slot : Option α} : f.Fill [] slot slot
  | once {t : Tree} {a : α} (h : Reads f.decode t a) : f.Fill [t] none (some a)

theorem Field.fill_cons {f : Field α} {t : Tree} {ts : List Tree} {slot slot' : Option α} :
    f.Fill (t :: ts) slot slot' ↔ ∃ between, f.Fill [t] slot between ∧ f.Fill ts between slot' := by
  constructor
  · rintro ⟨⟩
    case once h => exact ⟨_, .once h, .none⟩
  · rintro ⟨_, ⟨⟩, h'⟩
    case once h =>
      cases h'
      exact .once h

theorem Field.fill_nil {f : Field α} {slot slot' : Option α} :
    f.Fill [] slot slot' ↔ slot' = slot := by
  constructor
  · rintro ⟨⟩
    rfl
  · rintro rfl
    exact .none

/-- What the slot holds in the end, or what stands for a field that is lacking, is the value. -/
theorem Field.exists_fill_iff {f : Field α} {ts : List Tree} {a : α} :
    (∃ slot, f.Fill ts none slot ∧ slot.or f.absent = some a) ↔ f.Given ts a := by
  constructor
  · rintro ⟨slot, hslot, ha⟩
    cases hslot with
    | none => exact .lacking ha
    | once h =>
      cases ha
      exact .once h
  · intro h
    cases h with
    | once h => exact ⟨some a, .once h, rfl⟩
    | lacking h => exact ⟨none, .none, h⟩

namespace Fields

/-- How the slots change while the members of an object are read. -/
def Fill : {α : Type} → (fs : Fields α) → List (String × Tree) → fs.Slots → fs.Slots → Prop
  | _, .nil, _, _, _ => True
  | _, @cons _ β f rest, members, slots, slots' =>
    let slots : Option β × rest.Slots := slots
    let slots' : Option β × rest.Slots := slots'
    f.Fill (valuesOf f.name members) slots.1 slots'.1 ∧ rest.Fill members slots.2 slots'.2

section Fill

variable {key : String} {t : Tree} {members : List (String × Tree)}

theorem fill_cons (fs : Fields α) {m : String × Tree} {slots slots' : fs.Slots} :
    fs.Fill (m :: members) slots slots' ↔
      ∃ between, fs.Fill [m] slots between ∧ fs.Fill members between slots' := by
  induction fs with
  | nil => exact ⟨fun _ => ⟨slots, trivial, trivial⟩, fun _ => trivial⟩
  | @cons _ β f rest ih =>
    have hf : ∀ slot slot' : Option β, f.Fill (valuesOf f.name (m :: members)) slot slot' ↔
        ∃ between, f.Fill (valuesOf f.name [m]) slot between ∧
          f.Fill (valuesOf f.name members) between slot' := by
      intro slot slot'
      by_cases hm : m.1 = f.name
      · simp only [valuesOf, List.filter_cons, hm, decide_true, if_true, List.filter_nil,
          List.map_cons, List.map_nil]
        exact Field.fill_cons
      · simp only [valuesOf, List.filter_cons, hm, decide_false, Bool.false_eq_true, if_false,
          List.filter_nil, List.map_nil, Field.fill_nil, exists_eq_left]
    constructor
    · rintro ⟨hslot, hslots⟩
      obtain ⟨b, hb, hb'⟩ := (hf _ _).mp hslot
      obtain ⟨bs, hbs, hbs'⟩ := ih.mp hslots
      exact ⟨(b, bs), ⟨hb, hbs⟩, hb', hbs'⟩
    · rintro ⟨⟨b, bs⟩, ⟨hb, hbs⟩, hb', hbs'⟩
      exact ⟨(hf _ _).mpr ⟨b, hb, hb'⟩, ih.mpr ⟨bs, hbs, hbs'⟩⟩

theorem fill_nil (fs : Fields α) {slots slots' : fs.Slots} :
    fs.Fill [] slots slots' ↔ slots' = slots := by
  induction fs with
  | nil => exact ⟨fun _ => rfl, fun _ => trivial⟩
  | cons f rest ih =>
    constructor
    · rintro ⟨hslot, hslots⟩
      exact Prod.ext (Field.fill_nil.mp hslot) (ih.mp hslots)
    · rintro rfl
      exact ⟨.none, ih.mpr rfl⟩

/-- A member that is no field changes no slot. -/
theorem fill_of_not_mem (fs : Fields α) {slots slots' : fs.Slots} (h : key ∉ fs.names) :
    fs.Fill [(key, t)] slots slots' ↔ slots' = slots := by
  induction fs with
  | nil => exact ⟨fun _ => rfl, fun _ => trivial⟩
  | cons f rest ih =>
    rw [names, List.mem_cons, not_or] at h
    obtain ⟨hne, hrest⟩ := h
    have hnone : valuesOf f.name [(key, t)] = [] := by simp [valuesOf, hne]
    constructor
    · rintro ⟨hslot, hslots⟩
      rw [hnone] at hslot
      exact Prod.ext (Field.fill_nil.mp hslot) ((ih hrest).mp hslots)
    · rintro rfl
      exact ⟨by rw [hnone]; exact .none, (ih hrest).mpr rfl⟩

theorem finish_cons (f : Field β) (rest : Fields α) {slots : Option β × rest.Slots} {as : β × α} :
    (Fields.cons f rest).finish slots = .ok as ↔
      slots.1.or f.absent = some as.1 ∧ rest.finish slots.2 = .ok as.2 := by
  simp only [Fields.finish]
  cases slots.1.or f.absent with
  | none => simp
  | some b =>
    simp only [bind_eq_ok, Option.some.injEq]
    constructor
    · rintro ⟨more, hmore, h⟩
      cases h
      exact ⟨rfl, hmore⟩
    · rintro ⟨rfl, h⟩
      exact ⟨as.2, h, rfl⟩

/-- What the slots hold when all members were read are the values of the fields. -/
theorem exists_fill_iff (fs : Fields α) {as : α} :
    (∃ slots, fs.Fill members fs.noSlots slots ∧ fs.finish slots = .ok as) ↔
      fs.InObject members as := by
  induction fs with
  | nil => exact ⟨fun _ => trivial, fun _ => ⟨(), trivial, rfl⟩⟩
  | @cons α' β f rest ih =>
    constructor
    · rintro ⟨slots, ⟨hslot, hslots⟩, h⟩
      obtain ⟨ha, has⟩ := (finish_cons f rest).mp h
      exact ⟨Field.exists_fill_iff.mp ⟨_, hslot, ha⟩, ih.mp ⟨_, hslots, has⟩⟩
    · rintro ⟨ha, has⟩
      obtain ⟨slot, hslot, ha⟩ := Field.exists_fill_iff.mpr ha
      obtain ⟨slots, hslots, has⟩ := ih.mpr has
      exact ⟨(slot, slots), ⟨hslot, hslots⟩, (finish_cons f rest).mpr ⟨ha, has⟩⟩

end Fill

/-! ## Objects -/

section Objects

variable {rest rest' : List Symbol} {key : String} {t : Tree} {gap colonGap : List Char}
  {parts : List (List Char)}

theorem colon_cons (rest : List Symbol) : colon (.char ':' :: rest) = .ok rest := rfl

theorem member_self (f : Field β) (fs : Fields α) (slot : Option β) (slots : fs.Slots)
    (text : List Symbol) :
    (Fields.cons f fs).member f.name (slot, slots) (.char ':' :: text) =
      if slot.isSome then .error (.mismatch (.repeatedField f.name))
      else do
        let (value, text) ← f.decode text
        return ((some value, slots), text) := by
  show (if f.name = f.name then _ else _) = _
  rw [if_pos rfl]
  rfl

theorem member_of_ne (f : Field β) (fs : Fields α) (slot : Option β) (slots : fs.Slots)
    (text : List Symbol) (h : key ≠ f.name) :
    (Fields.cons f fs).member key (slot, slots) text = do
      let (others, text) ← fs.member key slots text
      return ((slot, others), text) := by
  show (if key = f.name then _ else _) = _
  rw [if_neg h]

/-- A member changes the slots as its value says, and is passed over if it is no field. -/
theorem member_eq_ok_iff (fs : Fields α) (hfs : fs.HaveShapes) (hnames : fs.names.Nodup)
    (hrest : Ends rest) {slots slots' : fs.Slots} :
    fs.member key slots (.char ':' :: (symbolsOf t.written ++ rest)) = .ok (slots', rest') ↔
      fs.Fill [(key, t)] slots slots' ∧ rest' = rest := by
  induction fs generalizing rest' with
  | nil =>
    rw [member, colon_cons]
    show (do return (slots, ← skipValue (symbolsOf t.written ++ rest))) = _ ↔ _
    rw [skipValue_written t hrest]
    exact ⟨by rintro ⟨⟩; exact ⟨trivial, rfl⟩, by rintro ⟨-, rfl⟩; rfl⟩
  | @cons α' β f fs ih =>
    obtain ⟨hf, hfs⟩ := hfs
    obtain ⟨hname, hnames⟩ := List.nodup_cons.mp hnames
    obtain ⟨slot, slots⟩ : Option β × fs.Slots := slots
    obtain ⟨slot', slots'⟩ : Option β × fs.Slots := slots'
    show _ ↔ (f.Fill (valuesOf f.name [(key, t)]) slot slot' ∧ fs.Fill [(key, t)] slots slots') ∧ _
    by_cases hkey : key = f.name
    · subst hkey
      have hvalues : valuesOf f.name [(f.name, t)] = [t] := by simp [valuesOf]
      rw [member_self, hvalues, fs.fill_of_not_mem hname]
      cases slot with
      | some b => exact ⟨nofun, by rintro ⟨⟨⟨⟩, -⟩, -⟩⟩
      | none =>
        rw [Option.isSome_none, if_neg Bool.false_ne_true, bind_eq_ok]
        constructor
        · rintro ⟨⟨b, more⟩, hb, h⟩
          obtain ⟨hR, rfl⟩ := (hf t rest hrest b more).mp hb
          cases h
          exact ⟨⟨.once hR, rfl⟩, rfl⟩
        · rintro ⟨⟨⟨⟩, rfl⟩, rfl⟩
          case once b hR => exact ⟨_, (hf t rest' hrest b rest').mpr ⟨hR, rfl⟩, rfl⟩
    · have hvalues : valuesOf f.name [(key, t)] = [] := by simp [valuesOf, hkey]
      rw [member_of_ne f fs slot slots _ hkey, hvalues, Field.fill_nil, bind_eq_ok]
      constructor
      · rintro ⟨⟨others, more⟩, hothers, h⟩
        obtain ⟨hfill, rfl⟩ := (ih hfs hnames).mp hothers
        cases h
        exact ⟨⟨rfl, hfill⟩, rfl⟩
      · rintro ⟨⟨rfl, hfill⟩, rfl⟩
        exact ⟨_, (ih hfs hnames).mpr ⟨hfill, rfl⟩, rfl⟩

theorem begins_member (colonGap : List Char) (m : String × List Char) :
    Begins (Json.member colonGap m) := ⟨_, _, _, rfl, rfl⟩

theorem symbolsOf_member (m : String × List Char) :
    symbolsOf (Json.member colonGap m) ++ rest =
      .char '"' :: (symbolsOf (m.1.toList.flatMap writtenChar ++ ['"']) ++
        .char ':' :: (symbolsOf colonGap ++ (symbolsOf m.2 ++ rest))) := by
  simp [Json.member, writtenString]

/-- The next member of an object is the next part, from behind its quote on. -/
theorem nextKey_spaced (hgap : Blanks gap) (first : Bool) (m : String × List Char) :
    nextKey first (symbolsOf (spaced gap first (Json.member colonGap m :: parts)) ++ rest) =
      .ok (some (symbolsOf (m.1.toList.flatMap writtenChar ++ ['"']) ++
        .char ':' :: (symbolsOf colonGap ++ (symbolsOf m.2
          ++ (symbolsOf (spaced gap false parts) ++ rest))))) := by
  have hquote (text : List Symbol) : skipBlanks (symbolsOf gap ++ .char '"' :: text) =
    .char '"' :: text := skipBlanks_symbolsOf hgap _
  have hcomma (text : List Symbol) : skipBlanks (.char ',' :: text) = .char ',' :: text := rfl
  rw [symbolsOf_spaced, symbolsOf_member, nextKey]
  cases first with
  | true =>
    rw [if_pos rfl, List.nil_append, hquote]
    rfl
  | false =>
    rw [if_neg Bool.false_ne_true, List.singleton_append, hcomma]
    simp only [hquote, Bool.false_eq_true, if_false]

theorem nextKey_separated (first : Bool) (m : String × Tree) (members : List (String × Tree)) :
    nextKey first (symbolsOf (separated first (Tree.writtenMembers (m :: members))) ++ rest) =
      .ok (some (symbolsOf (m.1.toList.flatMap writtenChar ++ ['"']) ++ .char ':' ::
        (symbolsOf m.2.written
          ++ (symbolsOf (separated false (Tree.writtenMembers members)) ++ rest)))) := by
  rw [Tree.writtenMembers, separated_eq_spaced, separated_eq_spaced]
  exact nextKey_spaced blanks_nil first (m.1, m.2.written)

/-- A member is read, and the others after it. -/
theorem members_step (fs : Fields α) {first : Bool} {slots slots' : fs.Slots}
    {text text' : List Symbol} {key : String} {value : List Symbol}
    (hnext : nextKey first text = .ok (some text')) (hkey : string text' = .ok (key, value))
    (hlt : ∀ between more, fs.member key slots value = .ok (between, more) →
      more.length < text.length) :
    fs.members first slots text = .ok (slots', rest') ↔
      ∃ between more, fs.member key slots value = .ok (between, more) ∧
        fs.members false between more = .ok (slots', rest') := by
  rw [members, hnext]
  cases hmember : fs.member key slots value with
  | error e => simp [hkey, hmember, bind, Except.bind]
  | ok x =>
    obtain ⟨between, more⟩ := x
    simp [hkey, hmember, bind, Except.bind, hlt between more hmember]

/-- The members of an object change the slots as their values say. -/
theorem members_eq_ok_iff (fs : Fields α) (hfs : fs.HaveShapes) (hnames : fs.names.Nodup)
    (ms : List (String × Tree)) (first : Bool) {slots slots' : fs.Slots} :
    fs.members first slots
        (symbolsOf (separated first (Tree.writtenMembers ms)) ++ .char '\x7d' :: rest) =
      .ok (slots', rest') ↔
      fs.Fill ms slots slots' ∧ rest' = .char '\x7d' :: rest := by
  induction ms generalizing first slots with
  | nil =>
    rw [Tree.writtenMembers, separated, symbolsOf_nil, List.nil_append, members, fs.fill_nil]
    show Except.ok (slots, _) = _ ↔ _
    rw [ok_pair_iff, eq_comm (a := slots)]
  | cons m ms ih =>
    have hends : Ends (symbolsOf (separated false (Tree.writtenMembers ms))
        ++ .char '\x7d' :: rest) := ends_separated (.inr rfl)
    rw [members_step fs (nextKey_separated first m ms) (string_written _ m.1), fs.fill_cons]
    · constructor
      · rintro ⟨between, more, hm, hmore⟩
        obtain ⟨hfill, rfl⟩ := (fs.member_eq_ok_iff hfs hnames hends).mp hm
        obtain ⟨hfill', rfl⟩ := (ih false).mp hmore
        exact ⟨⟨between, hfill, hfill'⟩, rfl⟩
      · rintro ⟨⟨between, hfill, hfill'⟩, rfl⟩
        exact ⟨between, _, (fs.member_eq_ok_iff hfs hnames hends).mpr ⟨hfill, rfl⟩,
          (ih false).mpr ⟨hfill', rfl⟩⟩
    · intro between more hm
      obtain ⟨-, rfl⟩ := (fs.member_eq_ok_iff hfs hnames hends).mp hm
      cases first <;> simp [Tree.writtenMembers, separated, Json.member, writtenString] <;> omega

end Objects

/-! ## Arrays -/

section Arrays

variable {rest rest' : List Symbol}

/-- A sequence ends only behind its last item. -/
theorem endSequence_eq_ok_iff (first : Bool) (items : List Tree) :
    endSequence (symbolsOf (separated first (Tree.writtenItems items)) ++ .char ']' :: rest) =
      .ok rest' ↔ items = [] ∧ rest' = rest := by
  cases items with
  | nil =>
    show Except.ok rest = _ ↔ _
    simp [eq_comm]
  | cons t items =>
    obtain ⟨s, text, hs, hlead⟩ := exists_lead t
    cases first with
    | true =>
      rw [Tree.writtenItems, separated, if_pos rfl, symbolsOf_append, hs, List.append_assoc,
        List.cons_append, endSequence, skipBlanks_of_kind hlead]
      split
      next h => cases h
      next h =>
        cases h
        cases hlead
      next =>
        constructor
        · rintro ⟨⟩
        · rintro ⟨⟨⟩, -⟩
    | false =>
      rw [Tree.writtenItems, separated, if_neg Bool.false_ne_true, List.cons_append, symbolsOf_cons,
        List.cons_append]
      constructor
      · rintro ⟨⟩
      · rintro ⟨⟨⟩, -⟩

theorem positional_next (expected : Expected) (f : Field β) (fs : Fields α) {done : Nat}
    {text text' : List Symbol} (hnext : nextElement (done = 0) text = .ok (some text')) :
    (Fields.cons f fs).positional expected done text = do
      let (value, text) ← f.decode text'
      let (values, text) ← fs.positional expected (done + 1) text
      return ((value, values), text) := by
  rw [positional, hnext]
  rfl

/-- The items of an array are the values of the fields, one each. -/
theorem positional_eq_ok_iff (expected : Expected) (fs : Fields α) (hfs : fs.HaveShapes)
    (items : List Tree) (done : Nat) {as : α} :
    (∃ more, fs.positional expected done
        (symbolsOf (separated (done = 0) (Tree.writtenItems items)) ++ .char ']' :: rest) =
          .ok (as, more) ∧ endSequence more = .ok rest') ↔
      fs.InArray items as ∧ rest' = rest := by
  induction fs generalizing items done with
  | nil =>
    refine Iff.trans ?_ (endSequence_eq_ok_iff (done = 0) items)
    constructor
    · rintro ⟨more, h, hmore⟩
      cases h
      exact hmore
    · intro h
      exact ⟨_, rfl, h⟩
  | @cons α' β f fs ih =>
    obtain ⟨hf, hfs⟩ := hfs
    cases items with
    | nil =>
      rw [Tree.writtenItems, separated, symbolsOf_nil, List.nil_append, positional,
        nextElement_closing]
      constructor
      · rintro ⟨more, ⟨⟩, -⟩
      · rintro ⟨⟨t, ts, ⟨⟩, -⟩, -⟩
    | cons t items =>
      have hends : Ends (symbolsOf (separated false (Tree.writtenItems items))
          ++ .char ']' :: rest) := ends_separated (.inl rfl)
      rw [Tree.writtenItems, positional_next expected f fs (nextElement_separated _ t _)]
      constructor
      · rintro ⟨more, h, hmore⟩
        obtain ⟨⟨a, text⟩, ha, h⟩ := bind_eq_ok.mp h
        obtain ⟨⟨as', text'⟩, has, h⟩ := bind_eq_ok.mp h
        cases h
        obtain ⟨hR, rfl⟩ := (hf t _ hends a text).mp ha
        obtain ⟨hin, rfl⟩ := (ih hfs items (done + 1)).mp ⟨_, has, hmore⟩
        exact ⟨⟨t, items, rfl, hR, hin⟩, rfl⟩
      · rintro ⟨⟨_, _, ⟨⟩, hR, has⟩, rfl⟩
        obtain ⟨more, has, hmore⟩ := (ih hfs items (done + 1)).mpr ⟨has, rfl⟩
        refine ⟨more, bind_eq_ok.mpr ⟨_, (hf t _ hends _ _).mpr ⟨hR, rfl⟩, ?_⟩, hmore⟩
        exact bind_eq_ok.mpr ⟨_, has, rfl⟩

end Arrays

end Fields

/-! ## Records -/

section Record

variable {rest rest' : List Symbol}

theorem rejects_record (name : String) (fs : Fields α) :
    Rejects (record name fs) [.array, .object] := by
  intro s text k hs hk
  rw [record, skipBlanks_of_kind hs]
  split
  next h => cases h
  next h =>
    cases h
    cases hs
    simp at hk
  next h =>
    cases h
    cases hs
    simp at hk
  next => exact ⟨_, rfl⟩

/-- **Records.** A record is read from an object that gives each field once, or not at all if it may
be absent, and from an array of exactly its fields. -/
theorem decodes_record (name : String) (fs : Fields α) (hfs : fs.HaveShapes)
    (hnames : fs.names.Nodup) : Decodes (record name fs) (RecordOf fs) := by
  refine .of_rejects [.array, .object] (rejects_record name fs)
    (by rintro _ _ (h | h) <;> simp [Tree.kind]) ?_
  intro t ht rest _ as rest'
  cases t with
  | array items =>
    rw [Tree.written, symbolsOf_compact]
    show (do
      let (values, rest) ← fs.positional (.recordOf name fs.count) 0
        (symbolsOf (separated true (Tree.writtenItems items)) ++ Symbol.char ']' :: rest)
      return (values, ← endSequence rest)) = _ ↔ _
    have hitems : (∃ more, fs.positional (.recordOf name fs.count) 0
        (symbolsOf (separated true (Tree.writtenItems items)) ++ .char ']' :: rest) =
          .ok (as, more) ∧ endSequence more = .ok rest') ↔ _ :=
      fs.positional_eq_ok_iff (.recordOf name fs.count) hfs items 0
    constructor
    · intro h
      obtain ⟨⟨as', more⟩, has, h⟩ := bind_eq_ok.mp h
      obtain ⟨more', hmore, h⟩ := bind_eq_ok.mp h
      cases h
      obtain ⟨hin, rfl⟩ := hitems.mp ⟨more, has, hmore⟩
      exact ⟨.array hin, rfl⟩
    · rintro ⟨h, rfl⟩
      cases h with
      | array has =>
        obtain ⟨more, has, hmore⟩ := hitems.mpr ⟨has, rfl⟩
        exact bind_eq_ok.mpr ⟨_, has, bind_eq_ok.mpr ⟨_, hmore, rfl⟩⟩
  | object members =>
    rw [Tree.written, symbolsOf_compact]
    show (do
      let (slots, rest) ← fs.members true fs.noSlots
        (symbolsOf (separated true (Tree.writtenMembers members)) ++ Symbol.char '\x7d' :: rest)
      let values ← fs.finish slots
      return (values, ← Fields.endObject rest)) = _ ↔ _
    constructor
    · intro h
      obtain ⟨⟨slots, more⟩, hslots, h⟩ := bind_eq_ok.mp h
      obtain ⟨as', has, h⟩ := bind_eq_ok.mp h
      obtain ⟨hfill, rfl⟩ := (fs.members_eq_ok_iff hfs hnames members true).mp hslots
      cases h
      exact ⟨.object (fs.exists_fill_iff.mp ⟨slots, hfill, has⟩), rfl⟩
    · rintro ⟨h, rfl⟩
      cases h with
      | object has =>
        obtain ⟨slots, hfill, has⟩ := fs.exists_fill_iff.mpr has
        refine bind_eq_ok.mpr
          ⟨_, (fs.members_eq_ok_iff hfs hnames members true).mpr ⟨hfill, rfl⟩, ?_⟩
        exact bind_eq_ok.mpr ⟨_, has, rfl⟩
  | _ => simp [Tree.kind] at ht

/-! ## Variants -/

theorem rejects_variant : Rejects variant [.string, .object] := by
  intro s text k hs hk
  rw [variant, skipBlanks_of_kind hs]
  split
  next h => cases h
  next h =>
    cases h
    cases hs
    simp at hk
  next h =>
    cases h
    cases hs
    simp at hk
  next => exact ⟨_, rfl⟩

/-- An object ends only behind its last member. -/
theorem endObject_eq_ok_iff (members : List (String × Tree)) :
    Fields.endObject (symbolsOf (separated false (Tree.writtenMembers members))
        ++ .char '\x7d' :: rest) = .ok rest' ↔ members = [] ∧ rest' = rest := by
  cases members with
  | nil =>
    show Except.ok rest = _ ↔ _
    simp [eq_comm]
  | cons m members => exact ⟨nofun, by rintro ⟨⟨⟩, -⟩⟩

theorem decodes_variant : Decodes variant VariantName := by
  refine .of_rejects [.string, .object] rejects_variant
    (by rintro _ _ (_ | _) <;> simp [Tree.kind]) ?_
  intro t ht rest _ name rest'
  cases t with
  | string s =>
    have hs : variant (symbolsOf (writtenString s) ++ rest) = .ok (s, rest) := string_written rest s
    rw [Tree.written, hs, ok_pair_iff]
    constructor
    · rintro ⟨rfl, rfl⟩
      exact ⟨.string s, rfl⟩
    · rintro ⟨⟨⟩, rfl⟩
      exact ⟨rfl, rfl⟩
  | object members =>
    rw [Tree.written, symbolsOf_compact]
    cases members with
    | nil =>
      constructor
      · rintro ⟨⟩
      · rintro ⟨⟨⟩, -⟩
    | cons m members =>
      have hends : Ends (symbolsOf (separated false (Tree.writtenMembers members))
          ++ .char '\x7d' :: rest) := ends_separated (.inr rfl)
      have hquote : kindOf? (.char '"') = some .string := rfl
      have hcurly : kindOf? (.char '\x7b') = some .object := rfl
      rw [symbolsOf_members, symbolsOf_writtenString, variant, skipBlanks_of_kind hcurly]
      simp only [skipBlanks_of_kind hquote, string_written]
      constructor
      · intro h
        obtain ⟨_, ⟨⟩, h⟩ := bind_eq_ok.mp h
        obtain ⟨_, ⟨⟩, h⟩ := bind_eq_ok.mp h
        obtain ⟨⟨⟨⟩, more⟩, hnull, h⟩ := bind_eq_ok.mp h
        obtain ⟨more', hmore, h⟩ := bind_eq_ok.mp h
        cases h
        obtain ⟨hm, rfl⟩ := (decodes_unit _ _ hends _ _).mp hnull
        obtain ⟨rfl, rfl⟩ := (endObject_eq_ok_iff members).mp hmore
        obtain ⟨name, t⟩ := m
        cases hm
        exact ⟨.object name, rfl⟩
      · rintro ⟨h, rfl⟩
        cases h with
        | object name =>
          refine bind_eq_ok.mpr ⟨_, rfl, bind_eq_ok.mpr ⟨_, Fields.colon_cons _, ?_⟩⟩
          refine bind_eq_ok.mpr ⟨_, (decodes_unit .null _ hends () _).mpr ⟨rfl, rfl⟩, ?_⟩
          exact bind_eq_ok.mpr ⟨_, (endObject_eq_ok_iff []).mpr ⟨rfl, rfl⟩, rfl⟩
  | _ => simp [Tree.kind] at ht

end Record

end OpenPulls.Json
