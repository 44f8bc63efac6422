import Redpanda.Admin.Request

/-!
# Leadership update messages and their codecs

`src/v/pandaproxy/schema_registry/validation.h:94–184`: the `cluster` leadership types and
their `reflection::adl` specialisations. `adl<T>::to` appends a value's bytes to an `iobuf`,
and `adl<T>::from` reads one off an `iobuf_parser`, throwing when the bytes run out. The
codecs of the fields (`model::ntp`, `term_id`, `std::optional<node_id>`, `int8_t` and the
vector of `ntp_leader_revision`) live in `reflection/adl.h` and `model/adl_serde.h`, outside
the sources, and are taken as given.
-/

namespace Redpanda.Cluster

open Redpanda.Admin (Ntp)

/-- `cluster::ntp_leader`. -/
structure NtpLeader where
  ntp : Ntp
  term : Int
  leaderId : Option Int
  deriving DecidableEq, Repr

/-- `cluster::ntp_leader_revision`. -/
structure NtpLeaderRevision where
  ntp : Ntp
  term : Int
  leaderId : Option Int
  revision : Int
  deriving DecidableEq, Repr

/-- `cluster::update_leadership_request_v2`. -/
structure UpdateLeadershipRequestV2 where
  leaders : List NtpLeaderRevision
  deriving DecidableEq, Repr

/-- `update_leadership_request_v2::version`, an `int8_t`. -/
def UpdateLeadershipRequestV2.version : BitVec 8 := 0

end Redpanda.Cluster

namespace Redpanda.Reflection

open Redpanda.Admin (Ntp)
open Redpanda.Cluster

/-- `iobuf_parser`: a read takes bytes off the front of what is left; a read past the end
throws, here `none`. -/
abbrev IobufParser (α : Type) := StateT (List UInt8) Option α

/-- `reflection::adl<T>`: `toIobuf` is `adl<T>::to`, the bytes it appends to the output
buffer, and `fromParser` is `adl<T>::from`. -/
structure Adl (α : Type) where
  toIobuf : α → List UInt8
  fromParser : IobufParser α

/-- A codec round-trips when reading what `toIobuf` wrote gives the value back and leaves
exactly the bytes that followed. -/
def Adl.RoundTrips {α : Type} (c : Adl α) : Prop :=
  ∀ a rest, c.fromParser.run (c.toIobuf a ++ rest) = some (a, rest)

/-- `adl<cluster::ntp_leader>` (`validation.h:158–169`): ntp, term and leader, in that
order. -/
def adlNtpLeader (ntpAdl : Adl Ntp) (termAdl : Adl Int) (leaderAdl : Adl (Option Int)) :
    Adl NtpLeader where
  toIobuf l :=
    ntpAdl.toIobuf l.ntp ++ termAdl.toIobuf l.term ++ leaderAdl.toIobuf l.leaderId
  fromParser := do
    let ntp ← ntpAdl.fromParser
    let term ← termAdl.fromParser
    let leader ← leaderAdl.fromParser
    return ⟨ntp, term, leader⟩

/-- `adl<cluster::update_leadership_request_v2>` (`validation.h:171–184`): the version, then
the leaders; `from` reads the version and drops it. -/
def adlUpdateLeadershipRequestV2 (int8Adl : Adl (BitVec 8))
    (leadersAdl : Adl (List NtpLeaderRevision)) : Adl UpdateLeadershipRequestV2 where
  toIobuf req :=
    int8Adl.toIobuf UpdateLeadershipRequestV2.version ++ leadersAdl.toIobuf req.leaders
  fromParser := do
    let _ ← int8Adl.fromParser
    let leaders ← leadersAdl.fromParser
    return ⟨leaders⟩

/-- A read over what a round-tripping codec wrote hands the value and the following bytes
to the rest of the parse. -/
theorem Adl.run_bind_to {α β : Type} {c : Adl α} (hc : c.RoundTrips) (a : α)
    (rest : List UInt8) (f : α → IobufParser β) :
    (c.fromParser >>= f).run (c.toIobuf a ++ rest) = (f a).run rest := by
  rw [StateT.run_bind, hc]
  rfl

/-- Both leadership codecs round-trip when their fields' codecs do: an `ntp_leader` comes
back with its ntp, term and leader, and an `update_leadership_request_v2` with its leaders
in order, each read consuming exactly the bytes written, the version byte included. -/
theorem leadership_codecs_roundTrip {ntpAdl : Adl Ntp} {termAdl : Adl Int}
    {leaderAdl : Adl (Option Int)} {int8Adl : Adl (BitVec 8)}
    {leadersAdl : Adl (List NtpLeaderRevision)} (hntp : ntpAdl.RoundTrips)
    (hterm : termAdl.RoundTrips) (hleader : leaderAdl.RoundTrips)
    (hint8 : int8Adl.RoundTrips) (hleaders : leadersAdl.RoundTrips) :
    (adlNtpLeader ntpAdl termAdl leaderAdl).RoundTrips ∧
      (adlUpdateLeadershipRequestV2 int8Adl leadersAdl).RoundTrips := by
  constructor
  · intro l rest
    simp only [adlNtpLeader, List.append_assoc, Adl.run_bind_to hntp, Adl.run_bind_to hterm,
      Adl.run_bind_to hleader]
    rfl
  · intro q rest
    simp only [adlUpdateLeadershipRequestV2, List.append_assoc, Adl.run_bind_to hint8,
      Adl.run_bind_to hleaders]
    rfl

/-! ### Codecs that meet the assumptions -/

/-- Reading a count in unary: `n` bytes `1` closed by a `0`. -/
def readUnary : List UInt8 → Option (Nat × List UInt8)
  | [] => none
  | b :: bs => if b = 0 then some (0, bs) else (readUnary bs).map fun p => (p.1 + 1, p.2)

theorem readUnary_replicate (n : Nat) (rest : List UInt8) :
    readUnary (List.replicate n 1 ++ 0 :: rest) = some (n, rest) := by
  induction n with
  | zero => rfl
  | succ n ih => simp [List.replicate_succ, readUnary, ih]

/-- A self-delimiting codec for an encodable type: its code in unary. -/
def Adl.ofEncodable (α : Type) [Encodable α] : Adl α where
  toIobuf a := List.replicate (Encodable.encode a) 1 ++ [0]
  fromParser := fun bytes => do
    let (n, rest) ← readUnary bytes
    let a ← Encodable.decode n
    pure (a, rest)

theorem Adl.ofEncodable_roundTrips (α : Type) [Encodable α] :
    (Adl.ofEncodable α).RoundTrips :=
  fun a rest => by simp [Adl.ofEncodable, StateT.run, readUnary_replicate, Encodable.encodek]

/-- Characters by their code point. -/
instance encodableChar : Encodable Char :=
  Encodable.ofLeftInjection Char.toNat (fun n => some (Char.ofNat n)) fun c =>
    congrArg some (Char.ofNat_toNat c)

instance encodableString : Encodable String :=
  Encodable.ofLeftInjection String.toList (fun cs => some ⟨cs⟩) fun _ => rfl

instance encodableBitVec8 : Encodable (BitVec 8) :=
  Encodable.ofLeftInjection BitVec.toFin (fun f => some (BitVec.ofFin f)) fun _ => rfl

instance encodableNtp : Encodable Ntp :=
  Encodable.ofLeftInjection (fun n => (n.ns, n.topic, n.partition))
    (fun p => some ⟨p.1, p.2.1, p.2.2⟩) fun _ => rfl

instance encodableNtpLeaderRevision : Encodable NtpLeaderRevision :=
  Encodable.ofLeftInjection (fun r => (r.ntp, r.term, r.leaderId, r.revision))
    (fun p => some ⟨p.1, p.2.1, p.2.2.1, p.2.2.2⟩) fun _ => rfl

/-- The unary codecs of the fields round-trip, so both leadership codecs built on them do. -/
theorem leadership_codecs_roundTrip_of_unary :
    (Adl.ofEncodable Ntp).RoundTrips ∧ (Adl.ofEncodable Int).RoundTrips ∧
      (Adl.ofEncodable (Option Int)).RoundTrips ∧ (Adl.ofEncodable (BitVec 8)).RoundTrips ∧
      (Adl.ofEncodable (List NtpLeaderRevision)).RoundTrips ∧
      (adlNtpLeader (Adl.ofEncodable Ntp) (Adl.ofEncodable Int)
          (Adl.ofEncodable (Option Int))).RoundTrips ∧
        (adlUpdateLeadershipRequestV2 (Adl.ofEncodable (BitVec 8))
          (Adl.ofEncodable (List NtpLeaderRevision))).RoundTrips :=
  ⟨Adl.ofEncodable_roundTrips _, Adl.ofEncodable_roundTrips _, Adl.ofEncodable_roundTrips _,
    Adl.ofEncodable_roundTrips _, Adl.ofEncodable_roundTrips _,
    leadership_codecs_roundTrip (Adl.ofEncodable_roundTrips _) (Adl.ofEncodable_roundTrips _)
      (Adl.ofEncodable_roundTrips _) (Adl.ofEncodable_roundTrips _)
      (Adl.ofEncodable_roundTrips _)⟩

end Redpanda.Reflection
