import RssIncubator.Control.Bearer
import RssIncubator.Lib.Json
import Mathlib.Algebra.Order.BigOperators.Group.List
import Mathlib.Data.List.Sort

/-!
# What is printed of a rotation passes the audit

`rotate` prints the JSON of an acceptance, and `audit` reads such a line back as a record.  Each of the two has the names of the
fields and their texts for itself: that they are the same is for proof, and so is that the line is not too long to be read.

Of `serde_json` it is relied on that the text it prints of a flat object is read as the members of that object.
-/

namespace RssIncubator.Control

open Lib Lib.Dialogue
open Agent (Uuid utf8 length_utf8 utf8_append u64Max except_bind_ok)
open Product

/-! ### Objects that are printed -/

namespace Value

/-- A text or a `u64`. -/
def Plain (value : Value) : Prop := (∃ text, value = .string text) ∨ ∃ n ≤ u64Max, value = .ofNat n

/-- How many bytes such a value takes when it is printed.  A byte of a text may be escaped by six. -/
def width : Value → ℕ
  | string text => 2 + 6 * (utf8 text).length
  | number (.posInt value) => (utf8 (toString value)).length
  | _ => 0

end Value

/-- The members of an object have names of their own and plain values. -/
def Flat (fields : List (String × Value)) : Prop := (fields.map Prod.fst).Nodup ∧ ∀ f ∈ fields, f.2.Plain

/-- How many bytes an object takes when it is printed without blanks. -/
def room (fields : List (String × Value)) : ℕ := 2 + (fields.map fun f => 4 + 6 * (utf8 f.1).length + f.2.width).sum

/-- What is relied on of `serde_json`, of `uuid` and of the contract crate. -/
structure Reads (service : Service) : Prop where
  /-- What was printed is read as if it had not been printed. -/
  printed : ∀ fields, Flat fields → service.rotateRecord (utf8 (service.display (.object fields) ++ "\n")) =
    RotateRecord.deserialize service.parseUuid fields
  compact : ∀ fields, Flat fields → (utf8 (service.display (.object fields))).length ≤ room fields
  uuid : ∀ id : Uuid, service.parseUuid id.hyphenated = some id
  /-- The generation of an acceptance is a `u64`. -/
  generation : ∀ body put, service.responses.policyPut body = some put → (put.acceptedGeneration : ℕ) ≤ u64Max

section

variable {service : Service} {bytes : Bytes} {output : Output}

theorem field_perm {fields fields' : List (String × Value)} (h : fields.Perm fields') (name : String) :
    RotateRecord.field fields name = RotateRecord.field fields' name := by
  have hfilter := h.filter (·.1 = name)
  unfold RotateRecord.field
  generalize fields.filter (·.1 = name) = l, fields'.filter (·.1 = name) = l' at hfilter
  match l, l', hfilter with
  | [], l', hfilter => rw [List.nil_perm.1 hfilter]
  | [f], l', hfilter => rw [List.singleton_perm.1 hfilter]
  | _ :: _ :: _, [], hfilter => cases hfilter.length_eq
  | _ :: _ :: _, [_], hfilter => cases hfilter.length_eq
  | _ :: _ :: _, _ :: _ :: _, _ => rfl

/-- A record is read whatever the order of its members. -/
theorem deserialize_perm {fields fields' : List (String × Value)} (h : fields.Perm fields') (parse : String → Option Uuid) :
    RotateRecord.deserialize parse fields = RotateRecord.deserialize parse fields' := by
  have hnames : (∃ f ∈ fields, f.1 ∉ RotateRecord.names) ↔ ∃ f ∈ fields', f.1 ∉ RotateRecord.names := by simp only [h.mem_iff]
  unfold RotateRecord.deserialize
  simp only [field_perm h, hnames]

/-- The members of the object that is printed of a record. -/
def RotateRecord.members (record : RotateRecord) : List (String × Value) :=
  [("schemaVersion", .string record.schemaVersion), ("operation", .string record.operation),
    ("outcome", .string record.outcome), ("requestId", .ofUuid record.requestId),
    ("correlationId", .ofUuid record.correlationId), ("authorizationReceiptId", .ofUuid record.authorizationReceiptId),
    ("acceptedGeneration", .ofNat record.acceptedGeneration), ("condition", .string record.condition)]

theorem toValue_accepted (record : RotateRecord) : (Output.accepted record).toValue = .object record.members := rfl

theorem members_flat {record : RotateRecord} (h : record.acceptedGeneration ≤ u64Max) : Flat record.members := by
  have hnames : RotateRecord.names.Nodup := by decide
  refine ⟨hnames, ?_⟩
  simp only [RotateRecord.members, List.forall_mem_cons, List.not_mem_nil, false_implies, implies_true, and_true]
  exact ⟨.inl ⟨_, rfl⟩, .inl ⟨_, rfl⟩, .inl ⟨_, rfl⟩, .inl ⟨_, rfl⟩, .inl ⟨_, rfl⟩, .inl ⟨_, rfl⟩, .inr ⟨_, h, rfl⟩,
    .inl ⟨_, rfl⟩⟩

/-- The names that are printed are those that are read. -/
theorem deserialize_members (reads : Reads service) (record : RotateRecord) :
    RotateRecord.deserialize service.parseUuid record.members = some record := by
  have hnames : ¬ ∃ f ∈ record.members, f.1 ∉ RotateRecord.names := by simp [RotateRecord.members, RotateRecord.names]
  unfold RotateRecord.deserialize
  rw [if_neg hnames]
  simp [RotateRecord.field, RotateRecord.members, Value.ofUuid, Value.ofNat, Value.asStr, Value.asU64, reads.uuid]

/-- A record that a rotation can print. -/
def Printable (record : RotateRecord) : Prop :=
  ∃ requestId correlationId, ∃ put : Contract.PolicyPut, record =
    acceptedRecord requestId correlationId ⟨put.authorizationReceiptId, put.acceptedGeneration, policyCondition put.condition⟩

theorem decodePolicyResponse_accepted {Body : Type} {contracts : Responses Body} {status : ℕ} {body : Body}
    {value : PolicyAcceptedProjection} (h : decodePolicyResponse contracts status body = .accepted value) :
    ∃ put, contracts.policyPut body = some put ∧
      value = ⟨put.authorizationReceiptId, put.acceptedGeneration, policyCondition put.condition⟩ := by
  unfold decodePolicyResponse at h
  by_cases hs : status = 200
  · rw [if_pos hs] at h
    cases hput : contracts.policyPut body with
    | none =>
      rw [hput] at h
      cases h
    | some put =>
      rw [hput] at h
      exact ⟨put, rfl, (PolicyResponse.accepted.inj h).symm⟩
  · rw [if_neg hs] at h
    repeat' split at h
    all_goals cases h

/-- The checks of the audit are those of what is printed. -/
theorem printable_iff {record : RotateRecord} : Printable record ↔ record.schemaVersion = "1" ∧ record.operation = "rotate" ∧
    record.outcome = "accepted" ∧ record.acceptedGeneration ≠ 0 ∧
    (record.condition = "Reconciling" ∨ record.condition = "PendingDevice") := by
  constructor
  · rintro ⟨requestId, correlationId, ⟨receipt, generation, condition⟩, rfl⟩
    refine ⟨rfl, rfl, rfl, generation.ne_zero, ?_⟩
    cases condition
    · exact .inl rfl
    · exact .inr rfl
  · obtain ⟨version, operation, outcome, requestId, correlationId, receipt, generation, condition⟩ := record
    rintro ⟨rfl, rfl, rfl, hgeneration, rfl | rfl⟩
    · exact ⟨requestId, correlationId, ⟨receipt, ⟨generation, Nat.pos_of_ne_zero hgeneration⟩, .reconciling⟩, rfl⟩
    · exact ⟨requestId, correlationId, ⟨receipt, ⟨generation, Nat.pos_of_ne_zero hgeneration⟩, .pendingDevice⟩, rfl⟩

/-- A generation has twenty digits at most. -/
theorem width_ofNat {n : ℕ} (h : n ≤ u64Max) (hpos : n ≠ 0) : (Value.ofNat n).width ≤ 20 :=
  (Broker.generation_fits ⟨n, Nat.pos_of_ne_zero hpos, h⟩).length

theorem width_ofUuid (id : Uuid) : (Value.ofUuid id).width = 218 := by
  simp only [Value.ofUuid, Value.width, Broker.hyphenated_length]

/-- What is printed of a rotation is not too long to be read. -/
theorem room_members {record : RotateRecord} (hp : Printable record) (hmax : record.acceptedGeneration ≤ u64Max) :
    room record.members < maxResponseBytes := by
  obtain ⟨hversion, hoperation, houtcome, hpos, hcondition⟩ := printable_iff.1 hp
  have hgeneration := width_ofNat hmax hpos
  have hwidth : (Value.string record.condition).width ≤ 80 := by rcases hcondition with h | h <;> rw [h] <;> decide +kernel
  have hnames : (RotateRecord.names.map fun name => 4 + 6 * (utf8 name).length).sum ≤ 1000 := by decide +kernel
  have htexts : (Value.string record.schemaVersion).width + (Value.string record.operation).width +
      (Value.string record.outcome).width ≤ 200 := by
    rw [hversion, hoperation, houtcome]
    decide +kernel
  simp only [RotateRecord.names, List.map_cons, List.map_nil, List.sum_cons, List.sum_nil] at hnames
  simp only [room, RotateRecord.members, List.map_cons, List.map_nil, List.sum_cons, List.sum_nil, width_ofUuid,
    maxResponseBytes]
  omega

theorem auditRecord_eq_ok : service.auditRecord bytes = .ok output ↔ ∃ record, service.rotateRecord bytes = some record ∧
    Printable record ∧ output = .validated record.requestId record.correlationId record.authorizationReceiptId
      record.acceptedGeneration := by
  unfold Service.auditRecord
  rw [except_bind_ok]
  refine exists_congr fun record => ?_
  rw [okOr_eq_ok, except_bind_ok, printable_iff]
  refine and_congr_right fun _ => ?_
  constructor
  · rintro ⟨⟨⟩, hchecks, hout⟩
    rw [refuse_eq_ok] at hchecks
    push Not at hchecks
    exact ⟨hchecks, (Except.ok.inj hout).symm⟩
  · rintro ⟨hchecks, rfl⟩
    refine ⟨(), ?_, rfl⟩
    rw [refuse_eq_ok]
    push Not
    exact hchecks

/-- The audit had these bytes for its input. -/
def Took (input : String) (l : History service.Url) (bytes : Bytes) : Prop :=
  if input = "-" then l = [⟨.stdin (maxResponseBytes + 1), some bytes⟩] else l = [⟨.read input, some bytes⟩]

theorem talks_readInput {answer : Option Bytes} {l : History service.Url} :
    Talks (do
      let bytes ← service.readInput answer
      ofExcept (service.auditRecord bytes)) l (.done (.ok output)) ↔
      l = [] ∧ ∃ bytes, answer = some bytes ∧ bytes.length ≤ maxResponseBytes ∧ service.auditRecord bytes = .ok output := by
  have hread : service.readInput answer = ofExcept (do
      let bytes ← okOr answer (.input "input_unreadable")
      refuse (maxResponseBytes < bytes.length) (.input "input_oversize")
      pure bytes) := by
    simp only [← ofExcept_bind]
    rfl
  rw [hread, ofExcept_bind]
  refine talks_done.trans (and_congr_right fun _ => ?_)
  rw [eq_comm, except_bind_ok]
  refine exists_congr fun bytes => ?_
  simp only [except_bind_ok, okOr_eq_ok]
  constructor
  · rintro ⟨⟨bytes', hanswer, ⟨⟩, hsize, hsame⟩, hrecord⟩
    obtain rfl := Except.ok.inj hsame
    exact ⟨hanswer, not_lt.1 (refuse_eq_ok.1 hsize), hrecord⟩
  · rintro ⟨hanswer, hsize, hrecord⟩
    exact ⟨⟨bytes, hanswer, (), refuse_eq_ok.2 (not_lt.2 hsize), rfl⟩, hrecord⟩

theorem talks_audit {input : String} {l : History service.Url} :
    Talks (service.audit input) l (.done (.ok output)) ↔
      ∃ bytes, Took input l bytes ∧ bytes.length ≤ maxResponseBytes ∧ service.auditRecord bytes = .ok output := by
  unfold Service.audit Took
  by_cases hstdin : input = "-"
  · simp only [if_pos hstdin]
    refine talks_ask.trans ?_
    constructor
    · rintro ⟨answer, l', rfl, h⟩
      obtain ⟨rfl, bytes, rfl, hbytes⟩ := talks_readInput.1 h
      exact ⟨bytes, rfl, hbytes⟩
    · rintro ⟨bytes, rfl, hbytes⟩
      exact ⟨some bytes, [], rfl, talks_readInput.2 ⟨rfl, bytes, rfl, hbytes⟩⟩
  · simp only [if_neg hstdin]
    refine talks_ask.trans ?_
    constructor
    · rintro ⟨answer, l', rfl, h⟩
      obtain ⟨rfl, bytes, rfl, hbytes⟩ := talks_readInput.1 h
      exact ⟨bytes, rfl, hbytes⟩
    · rintro ⟨bytes, rfl, hbytes⟩
      exact ⟨some bytes, [], rfl, talks_readInput.2 ⟨rfl, bytes, rfl, hbytes⟩⟩

/-- The line that a rotation printed is taken back as its record. -/
theorem auditRecord_println (reads : Reads service) {record : RotateRecord} (hp : Printable record)
    (hmax : record.acceptedGeneration ≤ u64Max) : (service.println (.accepted record)).length ≤ maxResponseBytes ∧
      service.auditRecord (service.println (.accepted record)) = .ok (.validated record.requestId record.correlationId
        record.authorizationReceiptId record.acceptedGeneration) := by
  have hflat := members_flat hmax
  have hnewline : (utf8 "\n").length = 1 := by decide
  have hshort := reads.compact _ hflat
  have hroom := room_members hp hmax
  refine ⟨?_, auditRecord_eq_ok.2 ⟨record, ?_, hp, rfl⟩⟩
  · rw [Service.println, toValue_accepted, utf8_append, List.length_append, hnewline]
    omega
  · rw [Service.println, toValue_accepted, reads.printed _ hflat, deserialize_members reads]

/-- **What `rotate` prints passes `audit`, and nothing else does.**  Whenever a run of the one succeeds, the other accepts the
line that it prints, from a file or from the standard input, and prints the identifiers of the acceptance; and it accepts no
input but one that is read as a record which a rotation can print. -/
theorem rotate_audited (resolves : service.Resolves) (paths : Paths service) (reads : Reads service) :
    (∀ args l output, Talks (service.run (.rotate args)) l (.done (.ok output)) →
      ∃ record, output = .accepted record ∧ Printable record ∧ ∀ input l', Took input l' (service.println output) →
        Talks (service.run (.audit input)) l' (.done (.ok (.validated record.requestId record.correlationId
          record.authorizationReceiptId record.acceptedGeneration)))) ∧
    ∀ input l output, Talks (service.run (.audit input)) l (.done (.ok output)) ↔
      ∃ bytes record, Took input l bytes ∧ bytes.length ≤ maxResponseBytes ∧ service.rotateRecord bytes = some record ∧
        Printable record ∧ output = .validated record.requestId record.correlationId record.authorizationReceiptId
          record.acceptedGeneration := by
  refine ⟨fun args l output ht => ?_, fun input l output => talks_audit.trans ?_⟩
  · obtain ⟨hverdict, hreplied⟩ := (keeps_rotate resolves paths args).result ht
    obtain ⟨requestId, correlationId, reply, hreply⟩ := hreplied output rfl trivial
    cases hverdict requestId correlationId reply hreply with
    | accepted haccepted =>
      obtain ⟨put, hput, rfl⟩ := decodePolicyResponse_accepted haccepted
      have hprintable : Printable (acceptedRecord requestId correlationId _) := ⟨requestId, correlationId, put, rfl⟩
      obtain ⟨hsize, haudit⟩ := auditRecord_println reads hprintable (reads.generation _ _ hput)
      exact ⟨_, rfl, hprintable, fun input l' htook => talks_audit.2 ⟨_, htook, hsize, haudit⟩⟩
  · simp only [auditRecord_eq_ok, exists_and_left]

end

/-! ### A line -/

namespace Fixture

/-- The value of a hexadecimal digit. -/
def hexValue (c : Char) : ℕ := if c.toNat < 58 then c.toNat - 48 else c.toNat - 87

def unhex : List Char → Bytes
  | a :: b :: rest => UInt8.ofNat (16 * hexValue a + hexValue b) :: unhex rest
  | _ => []

/-- The digits of a UUID, whatever stands between them. -/
def parseUuid (text : String) : Option Uuid :=
  let bytes := unhex (text.toList.filter (· ≠ '-'))
  if h : bytes.length = 16 then some ⟨bytes, h⟩ else none

theorem unhex_hex (b : Bytes) (rest : List Char) : unhex ((Agent.hex b).toList ++ rest) = b ++ unhex rest := by
  have hdigit : ∀ n < 16, hexValue (Agent.hexDigit n) = n := by decide
  rw [Agent.hex, String.toList_ofList]
  induction b with
  | nil => rfl
  | cons x b ih =>
    have hx := x.toNat_lt
    simp only [List.flatMap_cons, List.cons_append, List.nil_append, unhex, ih]
    rw [hdigit _ (by omega), hdigit _ (by omega), Nat.div_add_mod, UInt8.ofNat_toNat]

theorem hex_filter (b : Bytes) : (Agent.hex b).toList.filter (· ≠ '-') = (Agent.hex b).toList := by
  have hdash : ¬ Char.isAlphanum '-' := by decide
  refine List.filter_eq_self.2 fun c hc => ?_
  rw [decide_eq_true_eq]
  rintro rfl
  exact hdash (hex_path b _ hc)

theorem parseUuid_hyphenated (id : Uuid) : parseUuid id.hyphenated = some id := by
  have hdash : "-".toList.filter (· ≠ '-') = [] := by decide
  have hbytes : unhex (id.hyphenated.toList.filter (· ≠ '-')) = id.bytes := by
    have hlast : ∀ b, unhex (Agent.hex b).toList = b := fun b => by simpa [unhex] using unhex_hex b []
    simp only [Uuid.hyphenated, String.toList_append, List.filter_append, hex_filter, hdash, List.append_assoc,
      List.nil_append, unhex_hex, hlast]
    have hparts : ∀ m n, (id.bytes.drop m).take n ++ id.bytes.drop (m + n) = id.bytes.drop m := fun m n => by
      rw [← List.drop_drop, List.take_append_drop]
    rw [hparts 8 2, hparts 6 2, hparts 4 2, List.take_append_drop]
  unfold parseUuid
  rw [dif_pos (by rw [hbytes, id.length])]
  simp only [hbytes]

/-- A scalar as a member; of other values nothing is printed. -/
def memberOf (f : String × Value) : Json.Member :=
  (f.1.toList, match f.2 with
    | .string text => .text text.toList
    | .number (.posInt n) => .number n
    | .number (.negInt n) => .number n
    | _ => .null)

def fieldOf (member : Json.Member) : String × Value :=
  (String.ofList member.1, match member.2 with
    | .null => .null
    | .text text => .string (String.ofList text)
    | .number n => .number (.ofInt n))

/-- The members of a map stand in the order of their names. -/
def sorted (fields : List (String × Value)) : List (String × Value) := fields.insertionSort fun f g => f.1 ≤ g.1

def display : Value → String
  | .object fields => Json.encode ((sorted fields).map memberOf)
  | _ => ""

def readFields (bytes : Bytes) : Option (List (String × Value)) :=
  (Driver.fromUtf8 bytes).bind fun text => (Json.read text.toList).map (·.map fieldOf)

/-- The service, with a JSON of its own. -/
def recorder : Service :=
  { service with
    rotateRecord := fun bytes => (readFields bytes).bind (RotateRecord.deserialize parseUuid)
    parseUuid := parseUuid
    display := display }

theorem fieldOf_memberOf {f : String × Value} (h : f.2.Plain) : fieldOf (memberOf f) = f := by
  obtain ⟨name, value⟩ := f
  obtain ⟨text, rfl⟩ | ⟨n, -, rfl⟩ := h <;> simp [fieldOf, memberOf, Value.ofNat, Number.ofInt]

theorem size_digits (n : ℕ) : Json.size (Json.Scalar.number n).print = (utf8 (toString n)).length := by
  rw [Nat.toString_eq_ofList_toDigits, length_utf8, Json.utf8ByteSize_ofList]
  rfl

theorem width_memberOf (f : String × Value) (h : f.2.Plain) :
    Json.width (memberOf f) ≤ 4 + 6 * (utf8 f.1).length + f.2.width := by
  obtain ⟨name, value⟩ := f
  obtain ⟨text, rfl⟩ | ⟨n, -, rfl⟩ := h <;>
    simp only [Json.width, memberOf, Json.Scalar.width, Value.width, Value.ofNat, Json.size_toList, length_utf8,
      size_digits] <;>
    omega

theorem readFields_display {fields : List (String × Value)} (hflat : Flat fields) :
    readFields (utf8 (display (.object fields) ++ "\n")) = some (sorted fields) := by
  have hperm : (sorted fields).Perm fields := List.perm_insertionSort _ _
  have hback : ((sorted fields).map memberOf).map fieldOf = sorted fields := by
    rw [List.map_map]
    exact (List.map_congr_left fun f hf => fieldOf_memberOf (hflat.2 f (hperm.mem_iff.1 hf))).trans (List.map_id _)
  have hblank : "\n".toList.all Char.isWhitespace = true := by decide
  rw [readFields, Driver.fromUtf8_utf8, Option.bind_some, display, Json.encode, String.toList_append, String.toList_ofList,
    Json.read_print _ hblank, Option.map_some, hback]

theorem length_display {fields : List (String × Value)} (hflat : Flat fields) :
    (utf8 (display (.object fields))).length ≤ room fields := by
  have hperm : (sorted fields).Perm fields := List.perm_insertionSort _ _
  have hprint := Json.utf8ByteSize_encode ((sorted fields).map memberOf)
  have hwidth : ((sorted fields).map fun f => Json.width (memberOf f)).sum ≤
      ((sorted fields).map fun f => 4 + 6 * (utf8 f.1).length + f.2.width).sum :=
    List.sum_le_sum fun f hf => width_memberOf f (hflat.2 f (hperm.mem_iff.1 hf))
  have hsum := (hperm.map fun f : String × Value => 4 + 6 * (utf8 f.1).length + f.2.width).sum_eq
  rw [display, length_utf8, room]
  rw [List.map_map] at hprint
  unfold Function.comp at hprint
  omega

theorem recorder_rotateRecord (bytes : Bytes) :
    recorder.rotateRecord bytes = (readFields bytes).bind (RotateRecord.deserialize parseUuid) := rfl

theorem recorder_policyPut {body : Bytes} {put : Contract.PolicyPut} (h : recorder.responses.policyPut body = some put) :
    (put.acceptedGeneration : ℕ) ≤ u64Max := by
  have hbody : (if body = acceptedBody then some ⟨receipt, 5, .pendingDevice⟩ else none) = some put := h
  split_ifs at hbody
  obtain rfl := Option.some.inj hbody
  decide

theorem recorder_display : recorder.display = display := rfl

theorem recorder_parseUuid : recorder.parseUuid = parseUuid := rfl

theorem reads : Reads recorder where
  printed fields hflat := by
    rw [recorder_display, recorder_parseUuid, recorder_rotateRecord, readFields_display hflat, Option.bind_some]
    exact deserialize_perm (List.perm_insertionSort _ _) _
  compact fields hflat := by
    rw [recorder_display]
    exact length_display hflat
  uuid id := by
    rw [recorder_parseUuid, parseUuid_hyphenated]
  generation _ _ := recorder_policyPut

theorem recorder_paths : Paths recorder := ⟨paths.policyPut, paths.statusGet⟩

/-- What is printed of the rotation. -/
def line : String :=
  "\x7b\"acceptedGeneration\":5,\"authorizationReceiptId\":\"03030303-0303-0303-0303-030303030303\"," ++
    "\"condition\":\"PendingDevice\",\"correlationId\":\"02020202-0202-0202-0202-020202020202\",\"operation\":\"rotate\"," ++
    "\"outcome\":\"accepted\",\"requestId\":\"01010101-0101-0101-0101-010101010101\",\"schemaVersion\":\"1\"\x7d\n"

theorem println_recorded : recorder.println (.accepted recorded) = utf8 line := by
  have htext : display (Output.accepted recorded).toValue ++ "\n" = line := by decide +kernel
  exact congrArg utf8 htext

end Fixture

/-- A rotation that succeeds, the line it prints, and the audit of that line. -/
theorem rotate_audited_first :
    Talks (Fixture.recorder.run (.rotate Fixture.rotateArgs)) Fixture.rotation (.done (.ok (.accepted Fixture.recorded))) ∧
    Fixture.recorder.println (.accepted Fixture.recorded) = utf8 Fixture.line ∧
    Talks (Fixture.recorder.run (.audit "-")) [⟨.stdin (maxResponseBytes + 1), some (utf8 Fixture.line)⟩]
      (.done (.ok (.validated Fixture.state Fixture.nonce Fixture.receipt 5))) := by
  have ht : Talks (Fixture.recorder.run (.rotate Fixture.rotateArgs)) Fixture.rotation
      (.done (.ok (.accepted Fixture.recorded))) := Fixture.talks_rotation
  obtain ⟨record, hrecord, -, haudit⟩ :=
    (rotate_audited Fixture.resolves Fixture.recorder_paths Fixture.reads).1 Fixture.rotateArgs Fixture.rotation _ ht
  obtain rfl := Output.accepted.inj hrecord
  refine ⟨ht, Fixture.println_recorded, haudit "-" _ ?_⟩
  rw [Took, if_pos rfl, Fixture.println_recorded]

end RssIncubator.Control
