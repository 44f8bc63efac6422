import Mathlib

/-!
# Admin request parameters

`src/v/redpanda/admin/server.cc:250–293,555–588`. Admin handlers read path and query
parameters as strings and turn integers out of them with `std::stoi`. What a handler
throws is a `HandlerException`, named after the class the source throws. `std::stoi` is
modelled from the C++ library's contract: it skips C-locale space, reads an optional sign
and the longest run of decimal digits, and ignores whatever follows.
-/

namespace Redpanda.Admin

/-- What an admin handler throws: the `ss::httpd` exception classes with their message, a
`base_exception` whose body is a JSON object of string entries, `std::out_of_range`
escaping from `std::stoi`, a redirect to another node, and the
`string_conversion_exception` of `validate_no_control` with the offending text. -/
inductive HandlerException where
  | badRequest (message : String)
  | badParam (message : String)
  | notFound (message : String)
  | base (message : String) (status : Nat)
  | baseJson (entries : List (String × String)) (status : Nat)
  | outOfRange
  | redirect (location : String)
  | stringConversion (text : String)
  deriving DecidableEq, Repr

@[simp] theorem throw_eq_error {ε α : Type} (e : ε) : (throw e : Except ε α) = .error e := rfl

@[simp] theorem pure_eq_ok {ε α : Type} (a : α) : (pure a : Except ε α) = .ok a := rfl

/-- A handler step followed by the rest succeeds exactly when both succeed. -/
theorem bind_eq_ok_iff {ε α β : Type} {x : Except ε α} {f : α → Except ε β} {b : β} :
    x >>= f = .ok b ↔ ∃ a, x = .ok a ∧ f a = .ok b := by
  cases x <;> simp [bind, Except.bind]

/-- `request::query_parameters`: the value of each present query parameter. -/
abbrev QueryParameters := String → Option String

/-- Path parameters of a matched route (`ss::httpd::parameters::operator[]`). -/
abbrev PathParameters := String → String

/-- `request::get_query_param`: the value, or the empty string when absent. -/
def getQueryParam (query : QueryParameters) (name : String) : String :=
  (query name).getD ""

/-- `ss::internal::case_insensitive_cmp`: equal after C-locale `tolower` on each side. -/
def caseInsensitiveEq (a b : String) : Bool :=
  a.toList.map Char.toLower == b.toList.map Char.toLower

/-- `get_boolean_query_param` (`server.cc:555–566`): absent is false, present is true for
"true" in any case or "1". -/
def getBooleanQueryParam (query : QueryParameters) (name : String) : Bool :=
  match query name with
  | none => false
  | some value => caseInsensitiveEq value "true" || value == "1"

/-- `get_boolean_query_param` on the parameter's text: present, and "true" in any case or
"1". -/
theorem getBooleanQueryParam_eq (query : QueryParameters) (name : String) :
    getBooleanQueryParam query name =
      (query name).any fun v => v.toList.map Char.toLower == "true".toList || v == "1" := by
  unfold getBooleanQueryParam caseInsensitiveEq
  cases query name <;> rfl

/-! ### `std::stoi` -/

/-- The C locale's `isspace`, the characters `std::stoi` skips first. -/
def isCSpace (c : Char) : Bool :=
  c == ' ' || c == '\t' || c == '\n' || c == '\x0b' || c == '\x0c' || c == '\r'

/-- The value of a run of decimal digits, most significant first, after `acc`. -/
def decimalValue (acc : Nat) : List Char → Nat
  | [] => acc
  | c :: cs => decimalValue (10 * acc + (c.toNat - '0'.toNat)) cs

/-- The exceptions `std::stoi` throws. -/
inductive StoiError where
  | invalidArgument
  | outOfRange
  deriving DecidableEq, Repr

/-- The sign `strtol` accepts before the digits, and what follows it. -/
def splitSign : List Char → Bool × List Char
  | '-' :: rest => (true, rest)
  | '+' :: rest => (false, rest)
  | rest => (false, rest)

/-- `std::stoi` in base 10: no digit after the space and sign is `std::invalid_argument`,
a value outside `int` is `std::out_of_range`, and characters after the digits are ignored. -/
def stoi (s : String) : Except StoiError Int :=
  let (negative, rest) := splitSign (s.toList.dropWhile isCSpace)
  let digits := rest.takeWhile Char.isDigit
  if digits.isEmpty then .error .invalidArgument
  else
    let value : Int := if negative then -(decimalValue 0 digits : Int) else decimalValue 0 digits
    if -2 ^ 31 ≤ value ∧ value < 2 ^ 31 then .ok value else .error .outOfRange

/-- What `std::stoi` returns fits in an `int`. -/
theorem stoi_range {s : String} {n : Int} (h : stoi s = .ok n) : -2 ^ 31 ≤ n ∧ n < 2 ^ 31 := by
  unfold stoi at h
  split at h
  dsimp only at h
  split_ifs at h <;> cases h <;> assumption

theorem dropWhile_isCSpace_append {spaces rest : List Char}
    (hs : ∀ c ∈ spaces, isCSpace c = true) (hr : ∀ c ∈ rest.head?, isCSpace c = false) :
    (spaces ++ rest).dropWhile isCSpace = rest := by
  induction spaces with
  | nil => cases rest <;> simp_all
  | cons c cs ih => simp_all [List.dropWhile_cons]

theorem takeWhile_isDigit_append {digits rest : List Char}
    (hd : ∀ c ∈ digits, c.isDigit = true) (hr : ∀ c ∈ rest.head?, c.isDigit = false) :
    (digits ++ rest).takeWhile Char.isDigit = digits := by
  induction digits with
  | nil => cases rest <;> simp_all
  | cons c cs ih => simp_all [List.takeWhile_cons]

theorem isCSpace_of_isDigit {c : Char} (h : c.isDigit = true) : isCSpace c = false := by
  simp only [isCSpace, Bool.or_eq_false_iff]
  refine ⟨⟨⟨⟨⟨?_, ?_⟩, ?_⟩, ?_⟩, ?_⟩, ?_⟩ <;>
    exact beq_eq_false_iff_ne.mpr (by rintro rfl; revert h; decide)

theorem splitSign_of_isDigit {c : Char} (h : c.isDigit = true) (rest : List Char) :
    splitSign (c :: rest) = (false, c :: rest) := by
  have hm : c ≠ '-' := by rintro rfl; revert h; decide
  have hp : c ≠ '+' := by rintro rfl; revert h; decide
  unfold splitSign
  split <;> simp_all

/-- What `std::stoi` accepts: C-locale space, then a run of digits with a value below
`2^31`, then anything that does not start with a digit; the value is the run's. -/
theorem stoi_digits_prefix (spaces digits rest : List Char)
    (hs : ∀ c ∈ spaces, isCSpace c = true) (hne : digits ≠ [])
    (hd : ∀ c ∈ digits, c.isDigit = true) (hr : ∀ c ∈ rest.head?, c.isDigit = false)
    (hv : decimalValue 0 digits < 2 ^ 31) :
    stoi ⟨spaces ++ digits ++ rest⟩ = .ok (decimalValue 0 digits) := by
  obtain ⟨d, ds, rfl⟩ := List.exists_cons_of_ne_nil hne
  have hdigit : d.isDigit = true := hd d (List.mem_cons_self d ds)
  have hdrop : (spaces ++ d :: (ds ++ rest)).dropWhile isCSpace = d :: (ds ++ rest) :=
    dropWhile_isCSpace_append hs (by simpa using isCSpace_of_isDigit hdigit)
  have htake : (d :: (ds ++ rest)).takeWhile Char.isDigit = d :: ds :=
    takeWhile_isDigit_append hd hr
  simp only [stoi, String.toList, List.append_assoc, List.cons_append, hdrop,
    splitSign_of_isDigit hdigit, htake,
    List.isEmpty_cons, Bool.false_eq_true, ↓reduceIte]
  rw [if_pos (by omega)]

/-! ### Reading back a number's decimal text -/

theorem decimalValue_append (acc : Nat) (l₁ l₂ : List Char) :
    decimalValue acc (l₁ ++ l₂) = decimalValue (decimalValue acc l₁) l₂ := by
  induction l₁ generalizing acc with
  | nil => rfl
  | cons c cs ih => exact ih _

theorem digitChar_of_lt_ten {d : Nat} (h : d < 10) :
    (Nat.digitChar d).isDigit = true ∧ (Nat.digitChar d).toNat - '0'.toNat = d := by
  have hall : ∀ d : Fin 10,
      (Nat.digitChar d).isDigit = true ∧ (Nat.digitChar d).toNat - '0'.toNat = d := by decide
  exact hall ⟨d, h⟩

/-- `Nat.toDigitsCore` with enough fuel puts in front of `ds` a run of digits whose decimal
value is the number. -/
theorem toDigitsCore_ten (fuel : Nat) :
    ∀ (n : Nat) (ds : List Char), n < fuel →
      ∃ digits, Nat.toDigitsCore 10 fuel n ds = digits ++ ds ∧ digits ≠ [] ∧
        (∀ c ∈ digits, c.isDigit = true) ∧ decimalValue 0 digits = n := by
  induction fuel with
  | zero => intro n ds h; omega
  | succ fuel ih =>
    intro n ds h
    have hd := digitChar_of_lt_ten (Nat.mod_lt n (by omega : 10 > 0))
    unfold Nat.toDigitsCore
    dsimp only
    split_ifs with hq
    · refine ⟨[Nat.digitChar (n % 10)], rfl, List.cons_ne_nil _ _, ?_, ?_⟩
      · rw [List.forall_mem_singleton]
        exact hd.1
      · show 10 * 0 + ((Nat.digitChar (n % 10)).toNat - '0'.toNat) = n
        rw [hd.2]
        omega
    · obtain ⟨digits, heq, -, hdig, hval⟩ := ih (n / 10) _ (by omega)
      refine ⟨digits ++ [Nat.digitChar (n % 10)], by rw [heq, List.append_assoc]; rfl,
        by simp, fun c hc => ?_, ?_⟩
      · rcases List.mem_append.1 hc with hc | hc
        · exact hdig c hc
        · rw [List.mem_singleton.1 hc]
          exact hd.1
      · rw [decimalValue_append, hval]
        show 10 * (n / 10) + ((Nat.digitChar (n % 10)).toNat - '0'.toNat) = n
        rw [hd.2]
        omega

theorem toString_ofNat_data (m : Nat) : (toString (Int.ofNat m)).data = Nat.toDigits 10 m :=
  rfl

theorem toString_negSucc_data (m : Nat) :
    (toString (Int.negSucc m)).data = '-' :: Nat.toDigits 10 (m + 1) :=
  rfl

/-- The decimal text of an `int` is not empty and holds digits and `-` only. -/
theorem toString_int_data (n : Int) :
    (toString n).data ≠ [] ∧ ∀ c ∈ (toString n).data, c.isDigit = true ∨ c = '-' := by
  cases n with
  | ofNat m =>
    obtain ⟨digits, heq, hne, hdig, -⟩ := toDigitsCore_ten (m + 1) m [] (by omega)
    rw [toString_ofNat_data, Nat.toDigits, heq, List.append_nil]
    exact ⟨hne, fun c hc => .inl (hdig c hc)⟩
  | negSucc m =>
    obtain ⟨digits, heq, -, hdig, -⟩ := toDigitsCore_ten (m + 2) (m + 1) [] (by omega)
    rw [toString_negSucc_data, Nat.toDigits, heq, List.append_nil]
    refine ⟨List.cons_ne_nil _ _, fun c hc => ?_⟩
    rcases List.mem_cons.1 hc with rfl | hc
    · exact .inr rfl
    · exact .inl (hdig c hc)

/-- The decimal text of an `int` (`std::to_string`, Lean's `toString`) reads back through
`std::stoi` as the same number. -/
theorem stoi_toString {n : Int} (hlo : -2 ^ 31 ≤ n) (hhi : n < 2 ^ 31) :
    stoi (toString n) = .ok n := by
  cases n with
  | ofNat m =>
    have hm : m < 2 ^ 31 := by rw [Int.ofNat_eq_coe] at hhi; omega
    obtain ⟨digits, heq, hne, hdig, hval⟩ := toDigitsCore_ten (m + 1) m [] (by omega)
    have hs : toString (Int.ofNat m) = ⟨[] ++ digits ++ []⟩ := by
      rw [String.ext_iff, toString_ofNat_data, Nat.toDigits, heq]
      rfl
    rw [hs, stoi_digits_prefix [] digits [] (by simp) hne hdig (by simp) (hval ▸ hm), hval]
    rfl
  | negSucc m =>
    have hm : m + 1 ≤ 2 ^ 31 := by rw [Int.negSucc_eq] at hlo; omega
    obtain ⟨digits, heq, hne, hdig, hval⟩ := toDigitsCore_ten (m + 2) (m + 1) [] (by omega)
    have hs : (toString (Int.negSucc m)).toList = '-' :: digits := by
      rw [String.toList, toString_negSucc_data, Nat.toDigits, heq, List.append_nil]
    have htake : digits.takeWhile Char.isDigit = digits := by
      simpa using @takeWhile_isDigit_append digits [] hdig (by simp)
    obtain ⟨d, ds, rfl⟩ := List.exists_cons_of_ne_nil hne
    simp only [stoi, hs, List.dropWhile_cons, show isCSpace '-' = false by decide,
      Bool.false_eq_true, if_false, splitSign, htake, List.isEmpty_cons, hval, if_true]
    rw [if_pos (by omega), Int.negSucc_eq]
    congr 1

/-! ### Integer parameters -/

/-- `get_integer_query_param` (`server.cc:568–588`). The `int` from `std::stoi` is converted
to `uint64_t` modulo `2^64`; only `std::invalid_argument` is caught. -/
def getIntegerQueryParam (query : QueryParameters) (name : String) :
    Except HandlerException (Option UInt64) :=
  match query name with
  | none => .ok none
  | some value =>
    match stoi value with
    | .ok n => .ok (some ⟨BitVec.ofInt 64 n⟩)
    | .error .invalidArgument => .error (.badRequest s!"Parameter {name} must be an integer")
    | .error .outOfRange => .error .outOfRange

/-- `model::ntp`. -/
structure Ntp where
  ns : String
  topic : String
  partition : Int
  deriving DecidableEq, Repr

/-- `model::broker_shard`. -/
structure BrokerShard where
  nodeId : Int
  shard : UInt32
  deriving DecidableEq, Repr

/-- The partition check both `parse_ntp_from_*` members make: any exception of `std::stoi`
becomes a bad parameter naming `what`, and a negative id is refused. -/
def parsePartition (partitionStr what : String) : Except HandlerException Int :=
  match stoi partitionStr with
  | .error _ => .error (.badParam s!"{what} must be an integer: {partitionStr}")
  | .ok partition =>
    if partition < 0 then .error (.badParam s!"Invalid partition id {partition}")
    else .ok partition

/-- `admin_server::parse_ntp_from_request` with an explicit namespace (`server.cc:250–268`). -/
def parseNtpFromRequestIn (param : PathParameters) (ns : String) : Except HandlerException Ntp :=
  (parsePartition (param "partition") "Partition id").map fun p => ⟨ns, param "topic", p⟩

/-- `admin_server::parse_ntp_from_request` reading the namespace from the path
(`server.cc:270–272`). -/
def parseNtpFromRequest (param : PathParameters) : Except HandlerException Ntp :=
  parseNtpFromRequestIn param (param "namespace")

/-- `admin_server::parse_ntp_from_query_param` (`server.cc:274–293`). -/
def parseNtpFromQueryParam (query : QueryParameters) : Except HandlerException Ntp :=
  (parsePartition (getQueryParam query "partition_id") "Partition").map fun p =>
    ⟨getQueryParam query "namespace", getQueryParam query "topic", p⟩

/-- At the admin API `std::stoi` reads a partial numeral as its prefix, lets a negative
count wrap to a huge `uint64_t`, and lets `std::out_of_range` escape past an `int`. -/
theorem integer_params_accept_partial_numerals :
    getIntegerQueryParam (fun _ => some "7abc") "objects" = .ok (some 7) ∧
    getIntegerQueryParam (fun _ => some "-1") "objects" = .ok (some 18446744073709551615) ∧
    getIntegerQueryParam (fun _ => some "99999999999") "objects" = .error .outOfRange ∧
    parseNtpFromRequest (fun k => if k = "partition" then "7abc" else "kafka") =
      .ok ⟨"kafka", "kafka", 7⟩ ∧
    parseNtpFromQueryParam (fun k => if k = "partition_id" then some " 7abc" else none) =
      .ok ⟨"", "", 7⟩ :=
  ⟨rfl, rfl, rfl, rfl, rfl⟩

end Redpanda.Admin
