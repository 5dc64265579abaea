import Abacus.Envelope
import Abacus.Proofs.Json.Exact
import Abacus.Proofs.Json.Records

/-!
# Printed envelopes are decoded

Every envelope that a command prints is decoded as that envelope; only its data can come back in
another form, with the fields of objects in key order and doubles read again (`decode_render`).

Data that a text holds exactly comes back as it was (`decode_of_exact`). Absent data and `null` have
one text, and it is read as absent data.
-/

namespace Abacus

open Json (Draft Reader Shape Value)

theorem EntityType.lookup_variants (t : EntityType) : variants.lookup t.name = some t := by
  cases t <;> rfl

theorem Status.lookup_variants (s : Status) : variants.lookup s.name = some s := by
  cases s <;> rfl

theorem ResultCode.lookup_variants (c : ResultCode) : variants.lookup c.name = some c := by
  cases c <;> rfl

namespace Meta

theorem read_ofValue (m : Meta) : read (Draft.ofValue m.toJson) = .ok m := by
  obtain ⟨version, entityType, count⟩ := m
  have htype : ∀ t : EntityType, Reader.optional (Reader.variant EntityType.variants)
      (Draft.ofValue (.str t.name)) = .ok (some t) := fun t =>
    Reader.optional_of_ok nofun (Reader.variant_ofValue t.lookup_variants)
  have hcount : ∀ n : UInt64, Reader.optional Reader.size (Draft.ofValue (.nat n.toNat)) =
      .ok (some n) := fun n => Reader.optional_of_ok nofun (Reader.size_ofValue n)
  have hversion : Reader.text (Draft.ofValue (.str version)) = .ok version := rfl
  have hread : ∀ fields, toJson ⟨version, entityType, count⟩ = .obj fields →
      shape.read (Draft.ofValue (.obj fields)) =
        .ok (fields.map fun p => (p.1, Draft.ofValue p.2)) := by
    rintro _ ⟨⟩
    refine Shape.read_ofValue (fun p hp => ?_) ?_
    · rcases List.mem_append.1 hp with hp | hp
      · rcases List.mem_append.1 hp with hp | hp
        · cases List.mem_singleton.1 hp
          exact Shape.accepts_of_ok rfl hversion
        · cases entityType with
          | none => cases hp
          | some t =>
            cases List.mem_singleton.1 hp
            exact Shape.accepts_of_ok rfl (htype t)
      · cases count with
        | none => cases hp
        | some n =>
          cases List.mem_singleton.1 hp
          exact Shape.accepts_of_ok rfl (hcount n)
    · cases entityType <;> cases count <;> simp
  unfold read
  rw [toJson, hread _ rfl]
  cases entityType <;> cases count <;>
    simp [bind, Except.bind, pure, Except.pure, Shape.Values.get, Shape.Values.getD,
    List.lookup_cons, hversion, htype, hcount]

theorem readable_toJson (m : Meta) : m.toJson.Readable := by
  obtain ⟨version, entityType, count⟩ := m
  have hcount : ∀ n : UInt64, (Value.nat n.toNat).Readable := by
    intro n
    have hhigh := n.toNat_lt
    exact ⟨by omega, by omega⟩
  cases entityType <;> cases count <;>
    simp [toJson, Value.Readable, Value.ReadableFields, hcount]

end Meta

/-- Data that an envelope can give back: it can be read, is not too deep and is not absent. -/
structure Payload (v : Value) : Prop where
  readable : v.Readable
  depth_le : v.depth ≤ Value.depthLimit - 1
  not_null : Draft.ofValue v ≠ .null

namespace Envelope

theorem readData_ofValue {data : Option Value} (h : ∀ v, data = some v → Payload v) :
    readData (Draft.ofValue (.orNull data)) = .ok (data.map Value.reread) := by
  cases data with
  | none => rfl
  | some v =>
    have hv := h v rfl
    exact Reader.optional_of_ok hv.not_null (Reader.anything_ofValue hv.readable hv.depth_le)

theorem read_ofValue {e : Envelope} (h : ∀ v, e.data = some v → Payload v) :
    read (Draft.ofValue e.toJson) = .ok { e with data := e.data.map Value.reread } := by
  have hstatus := Reader.variant_ofValue e.status.lookup_variants
  have hcode := Reader.variant_ofValue e.code.lookup_variants
  have hexit := Reader.uint8_ofValue e.exitCode
  have hmessage : Reader.text (Draft.ofValue (.str e.message)) = .ok e.message := rfl
  have hdata := readData_ofValue h
  have hinfo := e.info.read_ofValue
  have hread : ∀ fields, e.toJson = .obj fields →
      shape.read (Draft.ofValue (.obj fields)) =
        .ok (fields.map fun p => (p.1, Draft.ofValue p.2)) := by
    rintro _ ⟨⟩
    refine Shape.read_ofValue ?_ (by simp)
    simp only [List.forall_mem_cons]
    exact ⟨Shape.accepts_of_ok rfl hstatus, Shape.accepts_of_ok rfl hcode,
      Shape.accepts_of_ok rfl hexit, Shape.accepts_of_ok rfl hmessage,
      Shape.accepts_of_ok rfl hdata, Shape.accepts_of_ok rfl hinfo, nofun⟩
  unfold read
  rw [toJson, hread _ rfl]
  simp [bind, Except.bind, pure, Except.pure, Shape.Values.get, Shape.Values.getD,
    List.lookup_cons, hstatus, hcode, hexit, hmessage, hdata, hinfo]

/-- A printed envelope is decoded. -/
theorem decode_render {e : Envelope} (h : ∀ v, e.data = some v → Payload v) :
    Json.decode read e.render = .ok { e with data := e.data.map Value.reread } := by
  refine Json.decode_pretty ?_ (read_ofValue h)
  have hexit := e.exitCode.toNat_lt
  have hinfo := e.info.readable_toJson
  have hdata : (Value.orNull e.data).Readable := by
    cases hdata : e.data with
    | none => trivial
    | some v => exact (h v hdata).readable
  refine ⟨trivial, trivial, ⟨?_, ?_⟩, trivial, hdata, hinfo, trivial⟩ <;> omega

/-! ## Exact data -/

/-- The envelope is open around its data. -/
theorem depth_data_lt {e : Envelope} {v : Value} (h : e.data = some v) :
    v.depth < e.toJson.depth := by
  simp only [toJson, h, Value.orNull, Value.depth, Value.depthFields]
  omega

theorem payload_of_exact {e : Envelope} {v : Value} (h : e.data = some v) (hexact : v.Exact)
    (hnull : v ≠ .null) (hdepth : e.toJson.depth ≤ Value.depthLimit) : Payload v where
  readable := hexact.readable
  depth_le := Nat.le_sub_one_of_lt (Nat.lt_of_lt_of_le (depth_data_lt h) hdepth)
  not_null := hexact.ofValue_ne_null hnull

/-- An envelope with exact data comes back from its text, unless it is too deep to be read. Data
that is `null` comes back as no data. -/
theorem decode_of_exact (e : Envelope) (hdata : ∀ v, e.data = some v → v.Exact)
    (hdepth : e.toJson.depth ≤ Value.depthLimit) :
    (e.data ≠ some .null → Json.decode read e.render = .ok e) ∧
      (e.data = some .null → Json.decode read e.render = .ok { e with data := none }) := by
  constructor
  · intro hnull
    have hpayload : ∀ v, e.data = some v → Payload v := by
      intro v hv
      exact payload_of_exact hv (hdata v hv) (fun heq => hnull (heq ▸ hv)) hdepth
    have hreread : e.data.map Value.reread = e.data := by
      cases hv : e.data with
      | none => rfl
      | some v => exact congrArg some (hdata v hv).reread_eq
    rw [decode_render hpayload, hreread]
  · intro hnull
    -- The text does not show that there was data.
    have hrender : e.render = render { e with data := none } := by
      rw [render, render, toJson, toJson, hnull]
      rfl
    rw [hrender]
    exact decode_render nofun

/-- A message with a quote, a line break and a control, around the greatest and the least integer
and keys that need escapes; and an envelope around `null`. -/
theorem decode_of_exact_escapes :
    (∃ e : Envelope, e.message = "\"a\\b\"\né\x00" ∧
      e.data = some (.obj [("\x07\x08", .arr [.int (-0x8000000000000000),
        .int 0xFFFFFFFFFFFFFFFF, .arr []]), ("é\"", .obj [])]) ∧
      Json.decode read e.render = .ok e) ∧
    Json.decode read (success .null).render = .ok { success .null with data := none } := by
  constructor
  · refine ⟨(error .domainError "\"a\\b\"\né\x00").withData (.obj [("\x07\x08", .arr
      [.int (-0x8000000000000000), .int 0xFFFFFFFFFFFFFFFF, .arr []]), ("é\"", .obj [])]),
      rfl, rfl, (decode_of_exact _ ?_ (by decide)).1 nofun⟩
    rintro v ⟨⟩
    have hkeys : "\x07\x08" < "é\"" := by decide
    refine ⟨List.pairwise_pair.2 hkeys, ⟨⟨?_, ?_⟩, ⟨?_, ?_⟩, trivial, trivial⟩, ⟨.nil, trivial⟩,
      trivial⟩ <;> decide
  · refine (decode_of_exact _ ?_ (by decide)).2 rfl
    rintro v ⟨⟩
    trivial

end Envelope

end Abacus
