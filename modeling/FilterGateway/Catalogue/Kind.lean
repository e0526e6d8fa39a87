import FilterGateway.Filter.Plugin
import FilterGateway.Shape.Bind

/-!
# Kinds of filters

The catalogue holds small filters that exercise every shape of configuration and every way in which
a filter can fail. A kind is a shape, the value it starts from, and what initialization does to that
value.
-/

namespace FilterGateway

/-- A kind of filter whose configuration has a shape. -/
structure Kind where
  label : String
  shape : Shape
  initial : shape.Value
  start : shape.Value → Outcome shape.Value := .done

namespace Kind

/-- A field that is always written and must be present. -/
abbrev field (name : String) (s : Shape) : FieldRule × Shape :=
  ({ name }, s)

/-- The value of an integer shape. -/
abbrev word (w : IntWidth) (n : Int) (low : w.low ≤ n := by decide)
    (high : n ≤ w.high := by decide) : Ranged w :=
  ⟨n, low, high⟩

/-! ### Records -/

abbrev prefixed : Kind where
  label := "prefix"
  shape := .record "struct Prefix" [field "prefix" .text] .ignored
  initial := (("", ()), ())
  start := fun ((path, ()), ()) =>
    if path.startsWith "/" then .done ((path, ()), ())
    else .failed ("prefix " ++ Text.quote path ++ " must start with '/'")

abbrev limit : Kind where
  label := "limit"
  shape := .record "struct Limit" [field "limit" (.int .u32)] .ignored
  initial := ((word .u32 0, ()), ())

abbrev headerShape : Shape :=
  .record "struct Header"
    [field "header" .text, field "max_len" (.int .u32), field "strip" (.option .bool)] .ignored

abbrev headerInitial : headerShape.Value :=
  (("x-request-id", word .u32 64, none, ()), ())

abbrev header : Kind where
  label := "header"
  shape := headerShape
  initial := headerInitial

abbrev tlsShape : Shape :=
  .record "struct Tls" [field "cert" .text, field "key" .text] .ignored

abbrev originServer : Kind where
  label := "upstream"
  shape := .record "struct Upstream"
    [field "name" .text, field "tls" tlsShape,
      ({ name := "sni", fallback := some .null, omits := Datum.isNothing }, .option .text)] .ignored
  initial := (("origin", (("c.pem", "k.pem", ()), ()), none, ()), ())

abbrev tag : Kind where
  label := "tag"
  shape := .record "struct Tag" [field "label" .text, field "priority" (.int .u32)] .ignored
  initial := (("default", word .u32 0, ()), ())
  start := fun ((label, priority, ()), ()) =>
    if label = "" then .failed "label must not be empty" else .done ((label, priority, ()), ())

abbrev strict : Kind where
  label := "strict"
  shape := .record "struct Strict"
    [field "mode" (.external [("fast", .unit), ("safe", .unit), ("off", .unit)]),
      field "level" (.int .u8), field "ratio" .double, field "on" .bool] .refused
  initial := ((.inl (), word .u8 1, 0.5, true, ()), ())
  start := fun ((mode, level, others), ()) =>
    if 9 < level.val then .failed ("level " ++ toString level.val ++ " out of range")
    else .done ((mode, level, others), ())

abbrev numbers : Kind where
  label := "numbers"
  shape := .record "struct Numbers"
    [field "i8" (.int .i8), field "i16" (.int .i16), field "i32" (.int .i32),
      field "i64" (.int .i64), field "u8" (.int .u8), field "u16" (.int .u16),
      field "u32" (.int .u32), field "u64" (.int .u64), field "f32" .single,
      field "f64" .double] .ignored
  initial :=
    ((word .i8 0, word .i16 0, word .i32 0, word .i64 0, word .u8 0, word .u16 0, word .u32 0,
      word .u64 0, 0.0, 0.0, ()), ())

abbrev lists : Kind where
  label := "lists"
  shape := .record "struct Lists"
    [field "tags" (.list .text), field "weights" (.list (.int .i64)),
      field "pair" (.tuple none [.int .i64, .text])] .ignored
  initial := ((["a", "b"], [], (word .i64 1, "one", ()), ()), ())

abbrev maps : Kind where
  label := "maps"
  shape := .record "struct Maps"
    [field "headers" (.map .text .text), field "extra" .json] .ignored
  initial :=
    (([("accept", "*/*")],
      .object [("a", .object [("b", .int 1), ("c", .list [.int 1, .int 2])])], ()), ())

abbrev flat : Kind where
  label := "flat"
  shape := .record "struct Flat" [field "id" .text] .kept
  initial := (("f", ()), [("kept", .bool true)])

abbrev camel : Kind where
  label := "camel"
  shape := .record "struct Camel"
    [field "maxConns" (.int .u16), ({ name := "timeoutMs", aliases := ["timeout"] }, .int .u64),
      field "Host-Name" .text] .ignored
  initial := ((word .u16 10, word .u64 1000, "localhost", ()), ())

abbrev leaf : Kind where
  label := "leaf"
  shape := .record "struct Leaf"
    [field "c" .char, field "tls" (.option tlsShape), field "alt" (.option tlsShape),
      ({ name := "secret", fallback := some (.int 7), omits := fun _ => true }, .int .u8)] .ignored
  initial := (('x', none, some (("ac", "ak", ()), ()), word .u8 1, ()), ())
  start := fun ((c, tls, alt, secret, ()), ()) =>
    if secret.val = 0 then .failed "secret must not be zero"
    else .done ((c, tls, alt, secret, ()), ())

abbrev needs : Kind where
  label := "needs"
  shape := .record "struct Needs"
    [({ name := "token", omits := Datum.isEmptyText }, .text), field "note" .text] .ignored
  initial := (("", "n", ()), ())

abbrev normalize : Kind where
  label := "normalize"
  shape := .record "struct Normalize" [field "label" .text, field "seen" (.int .u32)] .ignored
  initial := (("raw", word .u32 0, ()), ())
  start := fun ((label, seen, ()), ()) =>
    match Ranged.ofInt? .u32 (seen.val + 1) with
    | some seen => .done (("<" ++ label ++ ">", seen, ()), ())
    | none => .panicked

abbrev failinit : Kind where
  label := "failinit"
  shape := .record "struct FailInit" [field "message" .text] .ignored
  initial := (("init refused", ()), ())
  start := fun ((message, ()), ()) => .failed message

abbrev panics : Kind where
  label := "panics"
  shape := .record "struct Panics" [field "when" .bool] .ignored
  initial := ((true, ()), ())
  start := fun ((when, ()), ()) => if when then .panicked else .done ((when, ()), ())

abbrev nan : Kind where
  label := "nan"
  shape := .record "struct Nan" [field "x" .double] .ignored
  initial := ((0.0 / 0.0, ()), ())

abbrev wide : Kind where
  label := "wide"
  shape := .record "struct Wide" [field "n" (.int .u128)] .ignored
  initial := ((word .u128 18446744073709551616, ()), ())

/-! ### Choices -/

abbrev tagged : Kind where
  label := "tagged"
  shape := .tagged "internally tagged enum Tagged" "type"
    [("static", .record "struct variant Tagged::Static" [field "body" .text] .ignored),
      ("proxy", .record "struct variant Tagged::Proxy"
        [field "url" .text, field "retries" (.int .u8)] .ignored)]
  initial := .inl (("hi", ()), ())

abbrev external : Kind where
  label := "external"
  shape := .record "struct External"
    [field "target" (.external
      [("drop", .unit),
        ("static", .record "struct variant Target::Static" [field "body" .text] .ignored),
        ("port", .int .u16)])] .ignored
  initial := ((.inr (.inl (("hi", ()), ())), ()), ())

abbrev untagged : Kind where
  label := "untagged"
  shape := .record "struct Untagged"
    [field "value" (.untagged "untagged enum Loose" [.int .i64, .text, .list (.int .i64)])] .ignored
  initial := ((.inl (word .i64 1), ()), ())

/-! ### Other shapes -/

abbrev unit : Kind where
  label := "unit"
  shape := .unit
  initial := ()

abbrev scalar : Kind where
  label := "scalar"
  shape := .int .u32
  initial := word .u32 5

abbrev pair : Kind where
  label := "pair"
  shape := .tuple (some "tuple struct Pair") [.int .u32, .text]
  initial := (word .u32 5, "five", ())

abbrev optsome : Kind where
  label := "optsome"
  shape := .option headerShape
  initial := some headerInitial

abbrev optnone : Kind where
  label := "optnone"
  shape := .option headerShape
  initial := none

abbrev value : Kind where
  label := "value"
  shape := .json
  initial := .object []

abbrev tuplekeys : Kind where
  label := "tuplekeys"
  shape := .map .pair .text
  initial := [((1, 2), "x")]

abbrev intkeys : Kind where
  label := "intkeys"
  shape := .map (.int .u32) .text
  initial := [(word .u32 9, "nine"), (word .u32 10, "ten")]

/-- The kinds whose configurations have a shape. -/
def shaped : List Kind :=
  [prefixed, limit, header, originServer, tag, unit, strict, numbers, lists, maps, flat, camel,
    tagged, external, untagged, scalar, pair, optsome, optnone, value, nan, wide, tuplekeys,
    intkeys, leaf, needs, normalize, failinit, panics]

end Kind

end FilterGateway
