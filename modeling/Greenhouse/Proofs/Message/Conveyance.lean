import Greenhouse.Proofs.Message.Reencoding
import Greenhouse.Proofs.Registry.Readings

/-!
# What the frames of the backend convey

The backend builds two kinds of frames, the heartbeats of `Frame.heartbeat` and the telemetry of
`Frame.greenhouse`.  Where their texts make the round trip, whoever reads them learns what went into
them, and nothing else: of a heartbeat the health and the uptime, and of telemetry the switches and
levels among the actuators, which an empty registry then shows.  The round trip is only missed by
numbers whose texts are not read as the numbers, and by actuators that are nested too deep.
-/

namespace Greenhouse

namespace Frame

/-! ### Classes -/

/-- A heartbeat says the health and the uptime that it was built from. -/
theorem beat_heartbeat (stamp : String) (health : Health) (uptime : Double) :
  (heartbeat stamp health uptime).beat = ⟨health, some uptime⟩
  := by
  have hstatus : ((heartbeat stamp health uptime).data.get? "status").bind Json.string?
      = some health.name := rfl
  have huptime : ((heartbeat stamp health uptime).data.get? "uptime").bind Json.number?
      = some uptime := rfl
  have hstalled : Text.sameIgnoringCase health.name "stalled" = decide (health = .stalled) := by
    cases health <;> decide
  simp only [beat, hstatus, huptime, hstalled]
  cases health <;> rfl

theorem classify_heartbeat (stamp : String) (health : Health) (uptime : Double) :
  (heartbeat stamp health uptime).classify = .heartbeat ⟨health, some uptime⟩
  := by
  have hevent : (Text.sameIgnoringCase heartbeatEvent heartbeatEvent
      || Text.sameIgnoringCase heartbeatEvent "heartbeat") = true := by decide
  rw [← beat_heartbeat stamp health uptime]
  apply if_pos hevent

theorem classify_greenhouse (stamp : String) (actuators : Json) :
  (greenhouse stamp actuators).classify = .telemetry
  := by
  have hevent : ¬ (Text.sameIgnoringCase greenhouseKind heartbeatEvent
      || Text.sameIgnoringCase greenhouseKind "heartbeat") = true := by decide
  have hkind : (some greenhouseKind == some greenhouseKind
      || telemetryEvents.contains greenhouseKind) = true := by decide
  apply (if_neg hevent).trans (if_pos hkind)

/-! ### Readings -/

/-- Telemetry reports the switches and levels among the actuators, and no others. -/
theorem reports_greenhouse_iff {stamp : String} {actuators : List (String × Json)} {name : String}
    {value : ActuatorValue} :
  (greenhouse stamp (.obj actuators)).Reports name value
    ↔ ∃ v, (name, v) ∈ actuators ∧ v.IsReading value
  := by
  constructor
  · intro hreports
    cases hreports with
    | @apart members found v _ hdata hactuators hmem hv =>
        obtain rfl := Json.obj.inj hdata
        obtain heq := Json.obj.inj (Prod.mk.inj (List.mem_singleton.mp hactuators)).2
        subst heq
        use v
    | among hdata hnone hmem =>
        obtain rfl := Json.obj.inj hdata
        apply absurd List.mem_cons_self (hnone actuators)
  · rintro ⟨v, hmem, hv⟩
    apply Reports.apart rfl List.mem_cons_self hmem hv

/-! ### Round trips -/

/-- The numbers of a frame are those of its data. -/
theorem legible_toJson_iff {f : Frame} :
  f.toJson.Legible ↔ f.data.Legible
  := by
  simp [toJson, textMember, or_imp, forall_and]

/-- A frame with legible numbers makes the round trip just when its data fit. -/
theorem roundTrips_iff {f : Frame} (hnamed : (f.event.isEmpty && f.kind.isNone) = false)
    (hlegible : f.data.Legible) :
  f.RoundTrips ↔ f.data.Fits 126
  := by
  constructor
  · intro h
    apply (fits_of_parse (h.parse_eq hnamed)).1
  · intro h
    apply roundTrips_of_fits h (legible_toJson_iff.mpr hlegible)

/-- A heartbeat makes the round trip when its uptime is legible. -/
theorem roundTrips_heartbeat {stamp : String} {health : Health} {uptime : Double}
    (h : uptime.Legible) :
  (heartbeat stamp health uptime).RoundTrips
  := by
  apply (roundTrips_iff rfl _).mpr
  · constructor
    · change ["status", "uptime"].Pairwise (· < ·)
      decide
    · simp
  · simpa [heartbeat, ofEvent] using h

/-- Telemetry with legible numbers makes the round trip just when the actuators fit two levels
below the frame. -/
theorem roundTrips_greenhouse_iff {stamp : String} {actuators : List (String × Json)}
    (h : (Json.obj actuators).Legible) :
  (greenhouse stamp (.obj actuators)).RoundTrips ↔ (Json.obj actuators).Fits 125
  := by
  have hdata : (greenhouse stamp (.obj actuators)).data.Legible := by
    apply Json.legible_obj.mpr
    simpa [greenhouse, ofEvent] using Json.legible_obj.mp h
  rw [roundTrips_iff rfl hdata]
  constructor
  · intro hfits
    apply hfits.2 ("actuators", .obj actuators) List.mem_cons_self
  · intro hfits
    constructor
    · apply List.pairwise_singleton
    · simpa using hfits

end Frame

/-! ### The registry -/

section
variable {τ : Type}

/-- An actuator of which one reading is known, with its time. -/
def Actuator.ofReading (reading : τ × ActuatorValue) : Actuator τ :=
  { held := false
    value := reading.2
    telemetry := some reading.2
    updated := reading.1
    seen := some reading.1 }

/-- Readings of ascending names, applied one after another to an empty registry, are all that it
knows. -/
theorem Registry.applyEach_nil {timed : List (String × τ × ActuatorValue)}
    (h : Table.Ordered timed) :
  Registry.applyEach [] timed = Table.mapValues Actuator.ofReading timed
  := by
  apply Table.eq_of_find? (ordered_applyEach Table.ordered_nil timed) (Table.ordered_mapValues _ h)
  intro name
  rw [find?_applyEach _ (Table.nodup_names h), Table.find?_mapValues]
  cases Table.find? name timed <;> rfl

/-- What a registry shows of which one reading each is known. -/
theorem Registry.value?_ofReading (timed : List (String × τ × ActuatorValue)) (name : String) :
  Registry.value? (Table.mapValues Actuator.ofReading timed) name
    = Table.find? name (timed.map fun (name, _, value) => (name, value))
  := by
  rw [value?, Table.find?_mapValues, Option.map_map]
  exact (Table.find?_mapValues Prod.snd timed name).symm

/-- A heartbeat whose text makes the round trip is read as it was built, and it is a heartbeat of the
same health and uptime.  Telemetry whose text makes the round trip is read as it was built; it is
telemetry, and its readings are the switches and levels among the actuators, in ascending order of
their names and each once.  When they are applied to an empty registry, at whatever times, it knows
and shows these actuators with these values, and no others. -/
theorem Frame.built_conveys (stamp : String) :
  (∀ (health : Health) (uptime : Double),
      let f := heartbeat stamp health uptime
      f.RoundTrips → parse f.toWire = .ok f ∧ f.classify = .heartbeat ⟨health, some uptime⟩)
    ∧ ∀ actuators : List (String × Json),
      let f := greenhouse stamp (.obj actuators)
      f.RoundTrips →
        parse f.toWire = .ok f
          ∧ f.classify = .telemetry
          ∧ Table.Ordered f.readings
          ∧ (∀ name value,
            (name, value) ∈ f.readings ↔ ∃ v, (name, v) ∈ actuators ∧ v.IsReading value)
          ∧ ∀ timed : List (String × τ × ActuatorValue),
            timed.map (fun (name, _, value) => (name, value)) = f.readings →
            Registry.applyEach [] timed = Table.mapValues Actuator.ofReading timed
              ∧ ∀ name, (Registry.applyEach [] timed).value? name = Table.find? name f.readings
  := by
  constructor
  · intro health uptime f hround
    use hround.parse_eq rfl
    apply classify_heartbeat
  · intro actuators f hround
    have hparse : parse f.toWire = .ok f := hround.parse_eq rfl
    have hsorted : f.data.Sorted := sorted_data_of_parse hparse
    have hordered : Table.Ordered f.readings := ordered_readings hsorted
    use hparse, classify_greenhouse _ _, hordered
    constructor
    · intro name value
      rw [mem_readings_iff hsorted, reports_greenhouse_iff]
    · intro timed htimed
      have hnames : Table.Ordered timed := by
        rw [← htimed] at hordered
        simpa [Table.Ordered, Table.names, Function.comp_def] using hordered
      rw [Registry.applyEach_nil hnames, ← htimed]
      use rfl
      apply Registry.value?_ofReading

end

/-- A stalled backend, and actuators of which one is called as they all are and another as the
health of a heartbeat. -/
theorem Frame.built_conveys_oddNames :
  let stamp := "2024-05-01T10:00:00+00:00"
  let amount : Double := ⟨false, 4623226492472524800, by decide⟩
  let beat := heartbeat stamp .stalled amount
  let actuators : List (String × Json) :=
    [("actuators", .obj [("lamp", .bool true)]), ("doser", .int 3), ("fan", .float amount),
      ("note", .null), ("pump", .bool false), ("status", .str "stalled")]
  let f := greenhouse stamp (.obj actuators)
  let timed : List (String × Nat × ActuatorValue) :=
    [("doser", 5, .level (.ofInt 3)), ("fan", 6, .level amount), ("pump", 6, .switch false)]
  (beat.RoundTrips ∧ parse beat.toWire = .ok beat
      ∧ beat.classify = .heartbeat ⟨.stalled, some amount⟩)
    ∧ f.RoundTrips ∧ parse f.toWire = .ok f
    ∧ f.classify = .telemetry
    ∧ Table.Ordered f.readings
    ∧ (∀ name value, (name, value) ∈ f.readings ↔ ∃ v, (name, v) ∈ actuators ∧ v.IsReading value)
    ∧ timed.map (fun (name, _, value) => (name, value)) = f.readings
    ∧ Registry.applyEach [] timed = Table.mapValues Actuator.ofReading timed
    ∧ (Registry.applyEach [] timed).value? "fan" = some (.level amount)
    ∧ (Registry.applyEach [] timed).value? "status" = none
  := by
  intro stamp amount beat actuators f timed
  have hamount : amount.Legible := by
    change Json.parse amount.encode = .ok (.float amount)
    decide +kernel
  have hbeat : beat.RoundTrips := roundTrips_heartbeat hamount
  have hlegible : (Json.obj actuators).Legible := by
    change ∀ d ∈ [amount], d.Legible
    simpa using hamount
  have hfits : (Json.obj actuators).Fits 125 := by
    constructor
    · change ["actuators", "doser", "fan", "note", "pump", "status"].Pairwise (· < ·)
      decide
    · simp [actuators, Json.Fits, Json.IsWord, Table.Ordered, Table.names]
  have hround : f.RoundTrips := (roundTrips_greenhouse_iff hlegible).mpr hfits
  obtain ⟨hheartbeat, hgreenhouse⟩ := built_conveys (τ := Nat) stamp
  obtain ⟨hparse, hclass, hordered, hreadings, happlied⟩ := hgreenhouse actuators hround
  have htimed : timed.map (fun (name, _, value) => (name, value)) = f.readings := by
    decide +kernel
  obtain ⟨hregistry, hshown⟩ := happlied timed htimed
  use ⟨hbeat, hheartbeat .stalled amount hbeat⟩, hround, hparse, hclass, hordered, hreadings,
    htimed, hregistry
  constructor
  · rw [hshown]
    decide +kernel
  · rw [hshown]
    decide +kernel

end Greenhouse
