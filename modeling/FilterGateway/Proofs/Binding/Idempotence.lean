import FilterGateway.Proofs.Binding.Renewal
import FilterGateway.Proofs.Binding.Untouched

/-!
# Binding the same options again

Binding options that were bound before gives the same value again, as long as reading undoes writing
on each part that is written, but for one case: a field that has entries may be left out once the
options are bound, and then the options that it was bound from have to make it up alone.
-/

namespace FilterGateway.Shape

/-! ### Fields that are left out -/

section Omits

variable {rule : FieldRule} {s : Shape}

theorem omitsAlike_of_never (h : ∀ data, rule.omits data = false) : OmitsAlike rule s := by
  intro old value written homits
  simp [h] at homits

theorem omitsBare_of_never (h : ∀ data, rule.omits data = false) : OmitsBare rule s := by
  intro value base homits
  simp [h] at homits

theorem omitsAlike_of_readsBack (h : ∀ value, ReadsBack s value) : OmitsAlike rule s := by
  intro old value written homits hwritten hread
  obtain ⟨written', hwritten', hagain⟩ := h old
  obtain rfl := Except.ok.inj (hwritten.symm.trans hwritten')
  rw [Except.ok.inj (hagain.symm.trans hread)]
  exact homits

theorem omitsBare_of_leaf (hleaf : Leaf s) : OmitsBare rule s := by
  intro value base _ hwritten
  exact absurd rfl (encode_ne_object_of_leaf hleaf hwritten base)

theorem omitsAlike_option (hnull : ∀ value, encode s value ≠ .ok .null)
    (hrule : rule.omits = Datum.isNothing) : OmitsAlike rule (.option s) := by
  intro old value written homits hwritten hread
  rw [hrule] at homits ⊢
  cases value with
  | some value => cases homits
  | none =>
    cases old with
    | none => rfl
    | some old =>
      rcases decode_option_eq_ok_iff.mp hread with ⟨rfl, -⟩ | ⟨-, one, -, heq⟩
      · exact absurd hwritten (hnull old)
      · cases heq

theorem omitsBare_option (hrule : rule.omits = Datum.isNothing) : OmitsBare rule (.option s) := by
  intro value base homits hwritten
  rw [hrule] at homits
  cases value with
  | some value => cases homits
  | none => cases hwritten

end Omits

/-! ### Binding again -/

theorem encode_of_decode_object (s : Shape) (h : Restoring s) {entries : Fields} {written : Json}
    {value : s.Value} (hread : decode s (.object entries) = .ok value)
    (hwritten : encode s value = .ok written) : ∃ base, written = .object base := by
  cases s with
  | json =>
    obtain rfl := Except.ok.inj hread
    exact ⟨entries, (Except.ok.inj hwritten).symm⟩
  | option s =>
    rcases decode_option_eq_ok_iff.mp hread with ⟨hnull, -⟩ | ⟨-, one, hone, rfl⟩
    · cases hnull
    · exact encode_of_decode_object s h hone hwritten
  | map key s =>
    obtain ⟨fields, -, rfl⟩ := encode_map_eq_ok hwritten
    exact ⟨fields, rfl⟩
  | record title fields others =>
    obtain ⟨base, -, rfl⟩ := (encode_record_eq_ok_iff h.1).mp hwritten
    exact ⟨base, rfl⟩
  | external | tagged | untagged => exact h.1.elim
  | _ => cases hread

theorem encode_ne_object_of_decode (s : Shape) (h : Restoring s) {below written : Json}
    {old value : s.Value} (hold : encode s old = .ok below)
    (hbelow : ∀ base, below ≠ .object base) (hread : decode s below = .ok value)
    (hwritten : encode s value = .ok written) (base : Fields) : written ≠ .object base := by
  cases s with
  | json =>
    obtain rfl := Except.ok.inj hread
    obtain rfl := Except.ok.inj hwritten
    exact hbelow base
  | option s =>
    rcases decode_option_eq_ok_iff.mp hread with ⟨-, rfl⟩ | ⟨hvalue, one, hone, rfl⟩
    · obtain rfl := Except.ok.inj hwritten
      exact Json.noConfusion
    · cases old with
      | none => exact absurd (Except.ok.inj hold).symm hvalue
      | some old => exact encode_ne_object_of_decode s h hold hbelow hone hwritten base
  | list s =>
    obtain ⟨items, -, rfl⟩ := map_eq_ok_iff.mp hwritten
    exact Json.noConfusion
  | map key s =>
    obtain ⟨fields, -, rfl⟩ := encode_map_eq_ok hold
    exact absurd rfl (hbelow fields)
  | record title fields others =>
    obtain ⟨fields, -, rfl⟩ := (encode_record_eq_ok_iff h.1).mp hold
    exact absurd rfl (hbelow fields)
  | _ => exact encode_ne_object_of_leaf h.1 hwritten base

theorem madeUp_of_ne_object (s : Shape) (h : Restoring s) {value : s.Value} {written : Json}
    (hwritten : encode s value = .ok written) (hscalar : ∀ base, written ≠ .object base)
    (options : Fields) : MadeUp s value options := by
  cases s with
  | json => trivial
  | option s =>
    cases value with
    | none => simp [MadeUp]
    | some one => simpa [MadeUp] using madeUp_of_ne_object s h hwritten hscalar options
  | list s => trivial
  | map key s =>
    obtain ⟨fields, -, rfl⟩ := encode_map_eq_ok hwritten
    exact absurd rfl (hscalar fields)
  | record title fields others =>
    obtain ⟨fields, -, rfl⟩ := (encode_record_eq_ok_iff h.1).mp hwritten
    exact absurd rfl (hscalar fields)
  | _ => exact madeUp_of_leaf h.1 value options

/-- Binding the options a second time changes nothing: what the value has become is what it becomes
again, exactly when the options make up alone each field that they have an object for and that is
left out now. This holds for all shapes in which reading undoes writing, at any depth, although a
record may drop keys that it has no field for, fields may be optional, have fallbacks or be left out
for any of their values, and fields that are never written lose what they held. When fields are left
out always or only without entries, the options have nothing to make up. The value is read from its
written form, so the free JSON in it has to be in order, as the options are. -/
theorem bind_idempotent {s : Shape} (h : Restoring s) {value after : s.Value} {options : Fields}
    (hvalue : ∀ written, encode s value = .ok written → written.Ordered)
    (hoptions : (Json.object options).Ordered) (hbind : bind s value options = .ok after) :
    (bind s after options = .ok after ↔ MadeUp s after options) ∧
      (Bare s → bind s after options = .ok after) := by
  suffices hagain : (bind s after options = .ok after ↔ MadeUp s after options) ∧
      (Bare s → MadeUp s after options) from
    ⟨hagain.1, fun hbare => hagain.1.mpr (hagain.2 hbare)⟩
  obtain ⟨below, hbelow, hread⟩ := bind_eq_ok_iff_decode.mp hbind
  by_cases hobject : ∃ base, below = .object base
  · obtain ⟨base, rfl⟩ := hobject
    have hlower : Below s (some (.object base)) := by
      rintro _ ⟨⟩
      exact ⟨hvalue _ hbelow, value, hbelow⟩
    have hupper : ∀ setting ∈ some (Json.object options), setting.Ordered := by
      rintro _ ⟨⟩
      exact hoptions
    obtain ⟨written, hrenewed⟩ := repeats s h hlower hupper
      (Json.layer_object (.inl rfl) base) hread
    obtain ⟨base', rfl⟩ := encode_of_decode_object s h hread hrenewed.encode_eq
    refine ⟨Iff.trans ?_ hrenewed.reads_iff, hrenewed.madeUp⟩
    rw [bind_eq_ok_iff_decode, ReadsOver, Json.layer_object (.inl rfl)]
    simp [hrenewed.encode_eq, overlay]
  · have hscalar : ∀ base, below ≠ .object base := fun base heq => hobject ⟨base, heq⟩
    rw [overlay_of_ne_object hscalar] at hread
    obtain ⟨written, hwritten, hback⟩ :=
      (repeats s h).readsBack (hvalue below hbelow) hbelow hread
    have hscalar' := encode_ne_object_of_decode s h hbelow hscalar hread hwritten
    have hagain : bind s after options = .ok after := by
      refine bind_eq_ok_iff_decode.mpr ⟨written, hwritten, ?_⟩
      rwa [overlay_of_ne_object hscalar']
    have hmadeUp := madeUp_of_ne_object s h hwritten hscalar' options
    exact ⟨iff_of_true hagain hmadeUp, fun _ => hmadeUp⟩

/-- A record of a certificate and the key to it. -/
abbrev tlsShape : Shape :=
  .record "struct Tls" [({ name := "cert" }, .text), ({ name := "key" }, .text)] .ignored

/-- Whether a certificate and a key are those that a mirror takes when it has none of its own. -/
def isStock : Datum → Bool
  | .list [.list [.text cert, .text key], _] => cert == "c.pem" && key == "k.pem"
  | _ => false

/-- A mirror leaves its certificate and key out when they are those it takes by itself. -/
abbrev mirrorShape : Shape :=
  .record "struct Mirror"
    [({ name := "tls"
        fallback := some (.object [("cert", .text "c.pem"), ("key", .text "k.pem")])
        omits := isStock }, tlsShape)] .ignored

abbrev mirror (cert key : String) : mirrorShape.Value :=
  ((((cert, key, ()), ()), ()), ())

/-- The key that goes with the stock certificate. -/
def mirrorOptions : Fields :=
  [("tls", .object [("key", .text "k.pem")])]

theorem readsBack_tls (tls : tlsShape.Value) : ReadsBack tlsShape tls := by
  obtain ⟨⟨cert, key, ⟨⟩⟩, ⟨⟩⟩ := tls
  exact ⟨.object [("cert", .text cert), ("key", .text key)], rfl, rfl⟩

theorem readsBack_mirror (value : mirrorShape.Value) : ReadsBack mirrorShape value := by
  obtain ⟨⟨⟨⟨cert, key, ⟨⟩⟩, ⟨⟩⟩, ⟨⟩⟩, ⟨⟩⟩ := value
  by_cases hstock : isStock (datum tlsShape ((cert, key, ()), ()))
  · obtain ⟨rfl, rfl⟩ : cert = "c.pem" ∧ key = "k.pem" := by
      simpa [isStock, datum, datumFields] using hstock
    exact ⟨.object [], rfl, rfl⟩
  · have hwritten : encodeFields [({ name := "tls", omits := isStock }, tlsShape)]
        (((cert, key, ()), ()), ()) =
          .ok [("tls", .object [("cert", .text cert), ("key", .text key)])] := by
      rw [encodeFields, if_neg hstock]
      rfl
    exact ⟨_, (encode_record_eq_ok_iff (by decide)).mpr ⟨_, hwritten, rfl⟩, rfl⟩

/-- Each mirror is what its written form is read as, and so is each certificate with its key. All
the same, the key that makes the pair a stock one cannot be bound twice: once it is, the pair is
left out, and the key alone is no pair. -/
theorem bind_again_misses_left_out :
    (∀ tls : tlsShape.Value, ReadsBack tlsShape tls) ∧
      (∀ value : mirrorShape.Value, ReadsBack mirrorShape value) ∧
      bind mirrorShape (mirror "c.pem" "old.pem") mirrorOptions = .ok (mirror "c.pem" "k.pem") ∧
      bind mirrorShape (mirror "c.pem" "k.pem") mirrorOptions =
        .error (.unreadable (.missingField "cert")) :=
  ⟨readsBack_tls, readsBack_mirror, rfl, rfl⟩

theorem restoring_of_plain {rule : FieldRule} {s : Shape} (h : Restoring s)
    (hwritten : ∀ data, rule.omits data = false) (hfallback : rule.fallback = none)
    (hmissing : s.whenMissing? = none) :
    Restoring s ∧ OmitsAlike rule s ∧ ∀ value, standIn rule s = .ok value → ReadsBack s value := by
  refine ⟨h, omitsAlike_of_never hwritten, fun value hread => ?_⟩
  rw [standIn, hfallback, hmissing] at hread
  cases hread

theorem restoring_mirrorShape : Restoring mirrorShape := by
  have htls : Restoring tlsShape :=
    ⟨by decide, by simp [Named], Or.inr (restoring_of_plain restoring_text (fun _ => rfl) rfl rfl),
      Or.inr (restoring_of_plain restoring_text (fun _ => rfl) rfl rfl), trivial⟩
  exact ⟨by decide, by simp [Named],
    Or.inr ⟨htls, omitsAlike_of_readsBack readsBack_tls, fun value _ => readsBack_tls value⟩,
    trivial⟩

/-- An origin: fields with and without fallbacks, fields that are left out when they are missing or
empty, one that is never written, a map of lists and free JSON. -/
abbrev originShape : Shape :=
  .record "struct Origin"
    [({ name := "name" }, .text),
      ({ name := "tls", fallback := some .null, omits := Datum.isNothing },
        .option (.record "struct Tls"
          [({ name := "cert" }, .text),
            ({ name := "secret", fallback := some (.int 7), omits := fun _ => true }, .int .u128)]
          .ignored)),
      ({ name := "token", fallback := some (.text "none"), omits := Datum.isEmptyText }, .text),
      ({ name := "routes" }, .map .text (.list (.record "struct Route"
        [({ name := "path" }, .text), ({ name := "strip" }, .option .bool)] .refused))),
      ({ name := "weight", fallback := some (.int 1) }, .int .u16),
      ({ name := "extra" }, .json)] .ignored

abbrev origin (cert : String) (secret : Ranged .u128) (token : String)
    (routes : List (String × List ((String × Option Bool × Unit) × Unit))) (extra : Json) :
    originShape.Value :=
  (("api", some ((cert, secret, ()), ()), token, routes, ⟨3, by decide, by decide⟩, extra, ()), ())

def originOptions : Fields :=
  [("extra", .object [("a", .object [("b", .int 2)])]),
    ("routes", .object [("two", .list [.object [("path", .text "/v2")]])]),
    ("tls", .object [("cert", .text "new.pem"), ("zone", .null)])]

theorem restoring_originShape : Restoring originShape := by
  have hsmall : Restoring (.int .u16) := restoring_int (by decide) (by decide)
  have htls : Restoring (.option (.record "struct Tls"
      [({ name := "cert" }, .text),
        ({ name := "secret", fallback := some (.int 7), omits := fun _ => true }, .int .u128)]
      .ignored)) :=
    ⟨by decide, by simp [Named], Or.inr (restoring_of_plain restoring_text (fun _ => rfl) rfl rfl),
      Or.inl fun _ => rfl, trivial⟩
  have hroutes : Restoring (.map .text (.list (.record "struct Route"
      [({ name := "path" }, .text), ({ name := "strip" }, .option .bool)] .refused))) := by
    refine ⟨by decide, by simp [Named],
      Or.inr (restoring_of_plain restoring_text (fun _ => rfl) rfl rfl),
      Or.inr ⟨restoring_bool, omitsAlike_of_never fun _ => rfl, ?_⟩, trivial⟩
    rintro _ ⟨⟩
    exact ⟨.null, rfl, rfl⟩
  refine ⟨by decide, by simp [Named],
    Or.inr (restoring_of_plain restoring_text (fun _ => rfl) rfl rfl),
    Or.inr ⟨htls, omitsAlike_option ?_ rfl, ?_⟩,
    Or.inr ⟨restoring_text, omitsAlike_of_readsBack restoring_text.2, ?_⟩,
    Or.inr (restoring_of_plain hroutes (fun _ => rfl) rfl rfl),
    Or.inr ⟨hsmall, omitsAlike_of_never fun _ => rfl, ?_⟩,
    Or.inr (restoring_of_plain trivial (fun _ => rfl) rfl rfl), trivial⟩
  · rintro value hwritten
    obtain ⟨base, -, heq⟩ := (encode_record_eq_ok_iff (by decide)).mp hwritten
    cases heq
  · rintro _ ⟨⟩
    exact ⟨.null, rfl, rfl⟩
  · rintro _ ⟨⟩
    exact ⟨.text "none", rfl, rfl⟩
  · rintro _ ⟨⟩
    exact ⟨.int 1, rfl, rfl⟩

theorem bare_originShape : Bare originShape :=
  ⟨Or.inr ⟨omitsBare_of_never fun _ => rfl, trivial⟩,
    Or.inr ⟨omitsBare_option rfl, Or.inr ⟨omitsBare_of_never fun _ => rfl, trivial⟩,
      Or.inl fun _ => rfl, trivial⟩,
    Or.inr ⟨omitsBare_of_leaf trivial, trivial⟩,
    Or.inr ⟨omitsBare_of_never fun _ => rfl, trivial⟩,
    Or.inr ⟨omitsBare_of_never fun _ => rfl, trivial⟩,
    Or.inr ⟨omitsBare_of_never fun _ => rfl, trivial⟩, trivial⟩

/-- The secret and the token are not what they were, and stay what they have become. The key of the
mirror alone does not make up its certificate. -/
theorem bind_idempotent_of_origin :
    let before := origin "old.pem" ⟨5, by decide, by decide⟩ ""
      [("one", [(("/v1", some true, ()), ())])] (.object [("a", .object [("c", .list [])])])
    let after := origin "new.pem" ⟨7, by decide, by decide⟩ "none"
      [("one", [(("/v1", some true, ()), ())]), ("two", [(("/v2", none, ()), ())])]
      (.object [("a", .object [("b", .int 2), ("c", .list [])])])
    bind originShape before originOptions = .ok after ∧
      bind originShape after originOptions = .ok after ∧
      ¬MadeUp mirrorShape (mirror "c.pem" "k.pem") mirrorOptions := by
  intro before after
  have hbind : bind originShape before originOptions = .ok after := rfl
  have hoptions : (Json.object originOptions).Ordered := by
    simp only [originOptions, Json.Ordered, Json.OrderedFields, Json.OrderedItems, Table.Sorted]
    decide
  have hwritten : encode originShape before = .ok (.object
      [("extra", .object [("a", .object [("c", .list [])])]), ("name", .text "api"),
        ("routes", .object
          [("one", .list [.object [("path", .text "/v1"), ("strip", .bool true)]])]),
        ("tls", .object [("cert", .text "old.pem")]), ("weight", .int 3)]) := rfl
  have hvalue : ∀ written, encode originShape before = .ok written → written.Ordered := by
    intro written h
    obtain rfl := Except.ok.inj (hwritten.symm.trans h)
    simp only [Json.Ordered, Json.OrderedFields, Json.OrderedItems, Table.Sorted]
    decide
  refine ⟨hbind, (bind_idempotent restoring_originShape hvalue hoptions hbind).2 bare_originShape,
    fun hmadeUp => ?_⟩
  have hold : encode mirrorShape (mirror "c.pem" "old.pem") = .ok (.object
      [("tls", .object [("cert", .text "c.pem"), ("key", .text "old.pem")])]) := rfl
  have hmirror : ∀ written, encode mirrorShape (mirror "c.pem" "old.pem") = .ok written →
      written.Ordered := by
    intro written h
    obtain rfl := Except.ok.inj (hold.symm.trans h)
    simp only [Json.Ordered, Json.OrderedFields, Table.Sorted]
    decide
  have hkey : (Json.object mirrorOptions).Ordered := by
    simp [mirrorOptions, Json.Ordered, Json.OrderedFields, Table.Sorted]
  have hstock : bind mirrorShape (mirror "c.pem" "old.pem") mirrorOptions =
      .ok (mirror "c.pem" "k.pem") := rfl
  cases (bind_idempotent restoring_mirrorShape hmirror hkey hstock).1.mpr hmadeUp

end FilterGateway.Shape
