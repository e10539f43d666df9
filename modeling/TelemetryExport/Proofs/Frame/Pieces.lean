import TelemetryExport.Proofs.Frame.Stream

/-! # Frames in pieces

A source is cut into pieces, with moments in between in which nothing is ready, and two sources are
alike when the same bytes are unread and the same comes after them.  A read tells no two of them
apart and leaves them alike (`Source.Alike.take`), so neither does a call that receives a frame
(`receive_alike`), nor any number of calls (`receiveAll_alike`).

What one call gives is told by the unread bytes.  They are too few for a length, or begin with a
length beyond the limit, or with one that more bytes should follow than do, or with a whole frame:
`Front` has one constructor for each, `Outcome` says what the call makes of it, and `Received` is
what holds of the call in all four.

A read error within a length is passed on, but for one of the kind `unexpectedEof`: that is how the
end of a stream is known there, and so the error is taken for it (`receive_mistaken`). -/

namespace TelemetryExport
namespace Frame

/-! ### Sources alike -/

namespace Source

/-- The same bytes are unread, and the same comes after them. -/
structure Alike (s t : Source) : Prop where
  unread : s.unread = t.unread
  failure : s.failure = t.failure

theorem Alike.ending {s t : Source} (h : s.Alike t) : s.ending = t.ending := by
  rw [Source.ending, Source.ending, h.failure]

theorem Alike.take {s t : Source} (h : s.Alike t) (count : Nat) :
    (s.take count).1 = (t.take count).1 ∧ (s.take count).2.Alike (t.take count).2 := by
  refine ⟨?_, ?_, h.failure⟩
  · rw [take_fst, take_fst, h.unread, h.ending]
  · rw [unread_take, unread_take, h.unread]

end Source

theorem receive_alike (limit : Nat) {s t : Source} (h : s.Alike t) :
    (receive limit s).1 = (receive limit t).1 ∧
      (receive limit s).2.Alike (receive limit t).2 := by
  obtain ⟨hhead, hleft⟩ := h.take lengthWidth
  unfold receive
  generalize s.take lengthWidth = x at hhead hleft ⊢
  generalize t.take lengthWidth = y at hhead hleft ⊢
  obtain ⟨head, s'⟩ := x
  obtain ⟨_, t'⟩ := y
  obtain rfl : head = _ := hhead
  cases head with
  | error e => exact ⟨rfl, hleft⟩
  | ok head =>
      dsimp only
      split_ifs with hlarge
      · exact ⟨rfl, hleft⟩
      · obtain ⟨hpayload, hrest⟩ := Source.Alike.take hleft (ofBigEndian head)
        exact ⟨congrArg (Except.map some) hpayload, hrest⟩

theorem receiveAll_cons (limit : Nat) (limits : List Nat) (s : Source) :
    receiveAll (limit :: limits) s =
      ((receive limit s).1 :: (receiveAll limits (receive limit s).2).1,
        (receiveAll limits (receive limit s).2).2) := rfl

/-- What is left of a source after a call for each limit. -/
def left (limits : List Nat) (s : Source) : Source := (receiveAll limits s).2

/-- By induction on the calls: what the first leaves is alike again. -/
theorem receiveAll_alike (limits : List Nat) {s t : Source} (h : s.Alike t) :
    (receiveAll limits s).1 = (receiveAll limits t).1 ∧ (left limits s).Alike (left limits t) := by
  induction limits generalizing s t with
  | nil => exact ⟨rfl, h⟩
  | cons limit limits ih =>
      obtain ⟨hfirst, hnext⟩ := receive_alike limit h
      obtain ⟨hlater, hleft⟩ := ih hnext
      refine ⟨?_, hleft⟩
      rw [receiveAll_cons, receiveAll_cons]
      exact congrArg₂ _ hfirst hlater

/-- The calls are made one after the other, each on what those before have left. -/
theorem receiveAll_getElem? {limits : List Nat} {k limit : Nat} (h : limits[k]? = some limit)
    (s : Source) :
    (receiveAll limits s).1[k]? = some (receive limit (left (limits.take k) s)).1 ∧
      left (limits.take (k + 1)) s = (receive limit (left (limits.take k) s)).2 := by
  induction limits generalizing k s with
  | nil => cases h
  | cons first limits ih =>
      cases k with
      | zero =>
          obtain rfl : first = limit := Option.some.inj h
          exact ⟨rfl, rfl⟩
      | succ k => exact ih h (receive first s).2

/-! ### One call -/

/-- What the unread bytes begin with. -/
inductive Front (limit : Nat) (bytes : Bytes) : Prop
  | short (hshort : bytes.length < lengthWidth)
  | tooLarge {length : Nat} {rest : Bytes} (h : bytes = bigEndian lengthWidth length ++ rest)
      (hlength : length < lengthLimit) (hlarge : limit < length)
  | cut {length : Nat} {rest : Bytes} (h : bytes = bigEndian lengthWidth length ++ rest)
      (hlength : length < lengthLimit) (hlimit : length ≤ limit) (hcut : rest.length < length)
  | frame {payload rest : Bytes} (h : bytes = ofPayload payload ++ rest)
      (hlength : payload.length < lengthLimit) (hlimit : payload.length ≤ limit)

theorem front (limit : Nat) (bytes : Bytes) : Front limit bytes := by
  rcases Nat.lt_or_ge bytes.length lengthWidth with hshort | hlong
  · exact .short hshort
  · have hwidth : (bytes.take lengthWidth).length = lengthWidth := by
      rw [List.length_take, Nat.min_eq_left hlong]
    obtain ⟨hhead, hlength⟩ := head_eq_bigEndian hwidth
    have h : bytes = bigEndian lengthWidth (ofBigEndian (bytes.take lengthWidth)) ++
        bytes.drop lengthWidth := by
      rw [← hhead, List.take_append_drop]
    generalize ofBigEndian (bytes.take lengthWidth) = length at h hlength
    rcases Nat.lt_or_ge limit length with hlarge | hlimit
    · exact .tooLarge h hlength hlarge
    · rcases Nat.lt_or_ge (bytes.drop lengthWidth).length length with hcut | hwhole
      · exact .cut h hlength hlimit hcut
      · rw [head_append_eq hwhole] at h
        refine .frame h ?_ ?_
        all_goals
          rw [List.length_take, Nat.min_eq_left hwhole]
          assumption

/-- What a call gives and leaves, with what the unread bytes began with. -/
inductive Outcome (limit : Nat) (s : Source) : Except IoError (Option Bytes) → Source → Prop
  | ended {t : Source} (hshort : s.unread.length < lengthWidth)
      (hends : s.ending.kind = .unexpectedEof) : Outcome limit s (.ok none) t
  | broken {t : Source} (hshort : s.unread.length < lengthWidth)
      (hbroken : s.ending.kind ≠ .unexpectedEof) : Outcome limit s (.error s.ending) t
  | tooLarge {t : Source} {length : Nat} (h : s.unread = bigEndian lengthWidth length ++ t.unread)
      (hlarge : limit < length) : Outcome limit s (.error (lengthTooLarge length limit)) t
  | cut {t : Source} {length : Nat} {rest : Bytes}
      (h : s.unread = bigEndian lengthWidth length ++ rest) (hcut : rest.length < length) :
      Outcome limit s (.error s.ending) t
  | frame {t : Source} {payload : Bytes} (h : s.unread = ofPayload payload ++ t.unread)
      (hlength : payload.length < lengthLimit) (hlimit : payload.length ≤ limit) :
      Outcome limit s (.ok (some payload)) t

theorem outcome (limit : Nat) (s : Source) :
    Outcome limit s (receive limit s).1 (receive limit s).2 := by
  cases front limit s.unread with
  | short hshort =>
      obtain ⟨t, ht, -, -⟩ := receive_short limit hshort
      rw [ht]
      dsimp only
      split_ifs with hends
      · exact .ended hshort hends
      · exact .broken hshort hends
  | tooLarge h hlength hlarge =>
      obtain ⟨t, ht, rfl, -⟩ := receive_tooLarge h hlength hlarge
      rw [ht]
      exact .tooLarge h hlarge
  | cut h hlength hlimit hcut =>
      obtain ⟨t, ht, -, -⟩ := receive_cut h hlength hlimit hcut
      rw [ht]
      exact .cut h hcut
  | frame h hlength hlimit =>
      obtain ⟨t, ht, rfl, -⟩ := receive_frame h hlength hlimit
      rw [ht]
      exact .frame h hlength hlimit

/-- A payload that was received stood at the front, and just its frame was read. -/
theorem front_of_receive_eq_some {limit : Nat} {s : Source} {payload : Bytes}
    (h : (receive limit s).1 = .ok (some payload)) :
    payload.length < lengthLimit ∧ payload.length ≤ limit ∧
      s.unread = ofPayload payload ++ (receive limit s).2.unread := by
  have houtcome := outcome limit s
  rw [h] at houtcome
  cases houtcome with
  | frame hframe hlength hlimit => exact ⟨hlength, hlimit, hframe⟩

/-- Only a stream that is at its end within the length, or seems to be, has no further frame. -/
theorem short_of_receive_eq_none {limit : Nat} {s : Source}
    (h : (receive limit s).1 = .ok none) :
    s.unread.length < lengthWidth ∧ s.ending.kind = .unexpectedEof := by
  have houtcome := outcome limit s
  rw [h] at houtcome
  cases houtcome with
  | ended hshort hends => exact ⟨hshort, hends⟩

theorem failure_receive (limit : Nat) (s : Source) : (receive limit s).2.failure = s.failure := by
  have htake : (s.take lengthWidth).2.failure = s.failure := rfl
  unfold receive
  generalize s.take lengthWidth = x at htake ⊢
  obtain ⟨head, t⟩ := x
  cases head with
  | error e => exact htake
  | ok head =>
      dsimp only
      split_ifs
      · exact htake
      · exact htake

/-- What one call gives for the unread bytes of `s`, and what it leaves of them in `t`. -/
structure Received (limit : Nat) (s : Source) (result : Except IoError (Option Bytes))
    (t : Source) : Prop where
  /-- A payload is given just if its frame comes next, whole and within the limit. -/
  payload_iff : ∀ payload, result = .ok (some payload) ↔
    payload.length < lengthLimit ∧ payload.length ≤ limit ∧
      ∃ rest, s.unread = ofPayload payload ++ rest
  /-- Then its frame is read, and nothing after it. -/
  payload_unread : ∀ payload, result = .ok (some payload) →
    s.unread = ofPayload payload ++ t.unread
  /-- A length beyond the limit is refused, and nothing after the length is read. -/
  tooLarge : ∀ length rest, s.unread = bigEndian lengthWidth length ++ rest →
    length < lengthLimit → limit < length →
      result = .error (lengthTooLarge length limit) ∧ t.unread = rest
  /-- There is no further frame just if the stream ends within the length, or breaks there with an
  error of the kind by which the end is known. -/
  none_iff : result = .ok none ↔ s.unread.length < lengthWidth ∧
    (s.failure = none ∨ ∃ e, s.failure = some e ∧ e.kind = .unexpectedEof)
  /-- Any other error within the length is passed on. -/
  broken : ∀ e, s.unread.length < lengthWidth → s.failure = some e → e.kind ≠ .unexpectedEof →
    result = .error e
  /-- A stream that ends within the payload gives an early end, one that breaks there its error. -/
  cut : ∀ length rest, s.unread = bigEndian lengthWidth length ++ rest → length < lengthLimit →
    length ≤ limit → rest.length < length → result = .error s.ending ∧ t.unread = []
  short_unread : s.unread.length < lengthWidth → t.unread = []
  /-- No call changes what comes after the unread bytes. -/
  failure_eq : t.failure = s.failure

theorem received (limit : Nat) (s : Source) :
    Received limit s (receive limit s).1 (receive limit s).2 where
  payload_iff payload := by
    constructor
    · intro h
      obtain ⟨hlength, hlimit, hu⟩ := front_of_receive_eq_some h
      exact ⟨hlength, hlimit, _, hu⟩
    · rintro ⟨hlength, hlimit, rest, h⟩
      obtain ⟨t, ht, -, -⟩ := receive_frame h hlength hlimit
      rw [ht]
  payload_unread payload h := (front_of_receive_eq_some h).2.2
  tooLarge length rest h hlength hlarge := by
    obtain ⟨t, ht, hu, -⟩ := receive_tooLarge h hlength hlarge
    rw [ht]
    exact ⟨rfl, hu⟩
  none_iff := by
    rw [← Source.ending_kind_eq_iff]
    constructor
    · exact short_of_receive_eq_none
    · rintro ⟨hshort, hends⟩
      obtain ⟨t, ht, -, -⟩ := receive_short limit hshort
      rw [ht, if_pos hends]
  broken e hshort hfailure hkind := by
    obtain ⟨t, ht, -, -⟩ := receive_short limit hshort
    have hending := Source.ending_of_failure_eq_some hfailure
    rw [ht, hending, if_neg hkind]
  cut length rest h hlength hlimit hcut := by
    obtain ⟨t, ht, hu, -⟩ := receive_cut h hlength hlimit hcut
    rw [ht]
    exact ⟨rfl, hu⟩
  short_unread hshort := by
    obtain ⟨t, ht, hu, -⟩ := receive_short limit hshort
    rwa [ht]
  failure_eq := failure_receive limit s

/-- A read error within the length that has the kind of an early end: no frame is given, as if the
stream had ended there, and the error is not passed on. -/
theorem receive_mistaken :
    let e : IoError := ⟨.unexpectedEof, "connection closed without notice"⟩
    let s : Source := ⟨[.piece [0, 0]], some e⟩
    (receive 64 s).1 = .ok none ∧ (receive 64 s).1 ≠ .error e ∧
      (receive 64 { s with failure := none }).1 = .ok none := by
  decide +kernel

/-! ### Calls on two sources -/

/-- What calls on two sources have in common, and what each of them gives. -/
structure ReadAlike (limits : List Nat) (s t : Source) : Prop where
  /-- The results are the same, call by call. -/
  results_eq : (receiveAll limits s).1 = (receiveAll limits t).1
  /-- The same bytes are left. -/
  unread_eq : (left limits s).unread = (left limits t).unread
  call : ∀ k limit, limits[k]? = some limit → ∃ result,
    (receiveAll limits s).1[k]? = some result ∧
      Received limit (left (limits.take k) s) result (left (limits.take (k + 1)) s)

/-- **Pieces do not show.**  However the same unread bytes are cut into pieces, and wherever
nothing is ready for a moment, the same calls give the same results and leave the same bytes.
Each call reads its own frame or refuses it, and gives no frame where the stream breaks. -/
theorem receiveAll_readAlike (limits : List Nat) {s t : Source} (hunread : s.unread = t.unread)
    (hfailure : s.failure = t.failure) : ReadAlike limits s t := by
  obtain ⟨hresults, hleft⟩ := receiveAll_alike limits ⟨hunread, hfailure⟩
  refine ⟨hresults, hleft.unread, ?_⟩
  intro k limit hk
  obtain ⟨hresult, hnext⟩ := receiveAll_getElem? hk s
  refine ⟨_, hresult, ?_⟩
  rw [hnext]
  exact received limit _

/-- Two frames, the second beyond its limit, and then a connection that breaks within a length:
scattered over pieces that share no boundary with the frames, and all at once. -/
theorem receiveAll_readAlike_scattered :
    let s : Source :=
      ⟨[.notReady, .piece [0, 0], .piece [0, 2, 7], .notReady, .piece [8, 0], .piece [0, 0, 3, 0]],
        some .connectionReset⟩
    let t : Source := ⟨[.piece [0, 0, 0, 2, 7, 8, 0, 0, 0, 3, 0]], some .connectionReset⟩
    s.unread = t.unread ∧ s.failure = t.failure ∧ ReadAlike [2, 2, 2] s t ∧
      (receiveAll [2, 2, 2] s).1 =
        [.ok (some [7, 8]), .error (lengthTooLarge 3 2), .error .connectionReset] := by
  refine ⟨by decide, rfl, receiveAll_readAlike _ (by decide) rfl, ?_⟩
  decide +kernel

end Frame
end TelemetryExport
