import Redpanda.Admin.Request

/-!
# The dead nodes of a majority-loss query

`src/v/redpanda/admin/server.cc:3391–3429`: how `admin_server::get_majority_lost_partitions`
reads its `dead_nodes` query parameter, a comma-separated list of broker ids. The text is
split at every `,` by `boost::split`, and each token is read by `std::stoi`. The redirect to
the controller leader before, and the topics frontend's search after, are outside the
sources.
-/

namespace Redpanda.Admin

/-- `boost::split(tokens, input, boost::is_any_of(","))`: the pieces between commas, in
order, empty pieces included. -/
def splitCommas (input : String) : List String :=
  (input.data.splitOn ',').map String.mk

/-- The loop over the tokens (`server.cc:3408–3419`): each token through `std::stoi`, any
exception answered with `bad_param`. -/
def parseDeadNodeTokens (input : String) : List String → Except HandlerException (List Int)
  | [] => pure []
  | token :: tokens =>
    match stoi token with
    | .ok n => do
      let deadNodes ← parseDeadNodeTokens input tokens
      pure (n :: deadNodes)
    | .error _ => throw (.badParam (s!"Token {token} doesn't parse to an integer in input: " ++
        s!"{input}, expecting a csv of integer broker_ids"))

/-- The `dead_nodes` parse of `admin_server::get_majority_lost_partitions`
(`server.cc:3398–3428`), on the parameter's text (`get_query_param`, empty when absent). -/
def parseDeadNodes (input : String) : Except HandlerException (List Int) :=
  if input.length ≤ 0 then
    throw (.badParam
      "Query parameter dead_nodes not set, expecting a csv of integers (broker_ids)")
  else do
    let deadNodes ← parseDeadNodeTokens input (splitCommas input)
    if deadNodes.length = 0 then
      throw (.badParam (s!"Malformed input query parameter: {input}, expecting a csv of " ++
        "integers (broker_ids)"))
    else pure deadNodes

/-! ### Splitting on commas -/

theorem intercalate_cons {α : Type} (sep x : List α) (xs : List (List α)) :
    sep.intercalate (x :: xs) = x ++ (xs.map (sep ++ ·)).flatten := by
  induction xs generalizing x with
  | nil => simp [List.intercalate]
  | cons y ys ih =>
    rw [List.intercalate, List.intersperse_cons₂, List.flatten_cons, List.flatten_cons,
      ← List.intercalate, ih]
    simp

theorem intercalate_go_data (acc s : String) (l : List String) :
    (String.intercalate.go acc s l).data = acc.data ++ (l.map (s.data ++ ·.data)).flatten := by
  induction l generalizing acc with
  | nil => simp [String.intercalate.go]
  | cons b bs ih => simp [String.intercalate.go, ih, String.data_append]

theorem data_intercalate (s : String) (l : List String) :
    (s.intercalate l).data = s.data.intercalate (l.map String.data) := by
  cases l with
  | nil => rfl
  | cons a as =>
    rw [String.intercalate, intercalate_go_data, List.map_cons, intercalate_cons, List.map_map]
    rfl

theorem splitCommas_ne_nil (input : String) : splitCommas input ≠ [] := by
  simpa [splitCommas, List.splitOn] using List.splitOnP_ne_nil _ input.data

/-- Splitting at the commas undoes joining with commas, for pieces without a comma. -/
theorem splitCommas_intercalate {pieces : List String} (hne : pieces ≠ [])
    (hcomma : ∀ p ∈ pieces, ',' ∉ p.data) : splitCommas (",".intercalate pieces) = pieces := by
  rw [splitCommas, data_intercalate, show ",".data = [','] from rfl,
    List.splitOn_intercalate _ ',' (by simpa using hcomma) (by simpa using hne), List.map_map]
  exact List.map_id _

/-! ### Reading the tokens -/

/-- The loop succeeds exactly when `std::stoi` reads every token, and then returns the ids
read, one per token, in order. -/
theorem parseDeadNodeTokens_eq_ok_iff (input : String) :
    ∀ (tokens : List String) (nodes : List Int), parseDeadNodeTokens input tokens = .ok nodes ↔
      List.Forall₂ (fun token n => stoi token = .ok n) tokens nodes
  | [], nodes => by
    rw [List.forall₂_nil_left_iff]
    exact ⟨fun h => (Except.ok.inj h).symm, fun h => h ▸ rfl⟩
  | token :: tokens, nodes => by
    rw [List.forall₂_cons_left_iff]
    unfold parseDeadNodeTokens
    cases hs : stoi token with
    | error e => simp
    | ok n =>
      simp only [bind_eq_ok_iff, parseDeadNodeTokens_eq_ok_iff input tokens, pure_eq_ok,
        Except.ok.injEq]
      constructor
      · rintro ⟨deadNodes, hrest, rfl⟩
        exact ⟨n, deadNodes, rfl, hrest, rfl⟩
      · rintro ⟨n', deadNodes, hn, hrest, rfl⟩
        exact ⟨deadNodes, hrest, by rw [hn]⟩

/-- The parse accepts `dead_nodes` exactly when it is not empty and `std::stoi` reads every
comma-separated token, empty tokens included; the dead nodes are then the ids read, one per
token and in order. So the later check for an empty list of dead nodes never fires. -/
theorem parseDeadNodes_eq_ok_iff (input : String) (nodes : List Int) :
    parseDeadNodes input = .ok nodes ↔
      0 < input.length ∧
        List.Forall₂ (fun token n => stoi token = .ok n) (splitCommas input) nodes := by
  unfold parseDeadNodes
  by_cases hlen : input.length ≤ 0
  · simp [hlen]
  · rw [if_neg hlen, bind_eq_ok_iff]
    simp only [parseDeadNodeTokens_eq_ok_iff]
    constructor
    · rintro ⟨deadNodes, hd, hrest⟩
      split_ifs at hrest
      cases hrest
      exact ⟨by omega, hd⟩
    · rintro ⟨-, hd⟩
      have hlen' : nodes.length ≠ 0 := by
        rw [← hd.length_eq]
        exact fun h => splitCommas_ne_nil input (List.length_eq_zero.1 h)
      exact ⟨nodes, hd, by rw [if_neg hlen']; rfl⟩

/-- A non-empty list of ids in `int` range, written in decimal and joined with commas, is
read back as the same ids in the same order. -/
theorem parseDeadNodes_csv_roundTrip {ids : List Int} (hne : ids ≠ [])
    (hrange : ∀ n ∈ ids, -2 ^ 31 ≤ n ∧ n < 2 ^ 31) :
    parseDeadNodes (",".intercalate (ids.map toString)) = .ok ids := by
  have hsplit : splitCommas (",".intercalate (ids.map toString)) = ids.map toString := by
    refine splitCommas_intercalate (by simpa using hne) fun p hp => ?_
    obtain ⟨n, -, rfl⟩ := List.mem_map.1 hp
    intro hc
    rcases (toString_int_data n).2 _ hc with h | h <;> revert h <;> decide
  have hlen : 0 < (",".intercalate (ids.map toString)).length := by
    obtain ⟨a, as, rfl⟩ := List.exists_cons_of_ne_nil hne
    rw [← String.length_data, data_intercalate, List.map_cons, List.map_cons, intercalate_cons,
      List.length_append]
    have := List.length_pos.2 (toString_int_data a).1
    omega
  have htokens : parseDeadNodeTokens (",".intercalate (ids.map toString)) (ids.map toString) =
      .ok ids :=
    (parseDeadNodeTokens_eq_ok_iff _ _ _).2 <| List.forall₂_map_left_iff.2 <|
      List.forall₂_same.2 fun n hn => stoi_toString (hrange n hn).1 (hrange n hn).2
  rw [parseDeadNodes, if_neg (by omega), hsplit, htokens]
  exact if_neg (by simpa using hne)

/-- The ids `1`, `-2` and `30` sent as `1,-2,30` are read back. -/
theorem parseDeadNodes_reads_back_three_ids :
    ([1, -2, 30] : List Int) ≠ [] ∧ (∀ n ∈ ([1, -2, 30] : List Int), -2 ^ 31 ≤ n ∧ n < 2 ^ 31) ∧
      parseDeadNodes (",".intercalate (([1, -2, 30] : List Int).map toString)) = .ok [1, -2, 30] :=
  ⟨by decide, by decide, parseDeadNodes_csv_roundTrip (by decide) (by decide)⟩

end Redpanda.Admin
