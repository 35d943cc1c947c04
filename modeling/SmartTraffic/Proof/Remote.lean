import SmartTraffic.Split.Telemetry

/-!
# What the REST service shows

Whatever the REST service shows was sent to Redis by the runtime, and Redis held it when it
answered for it: an entry lives for some seconds in Redis, and what was received of it is
believed for some seconds more. Between the answer and its reception nothing ages, so what
can be said of the time of the `set` is said of the moment Redis answered; what is measured
in the service itself, the age of a snapshot by its wall clock and of a frame since it was
received, holds to the end. Without a connection nothing is shown.

The writer and the reader touch different parts of the state. `Stored` is about the first,
`Known` about the second; all that the reader needs of the writer is that its list of
deposits only grows.
-/

namespace SmartTraffic.Split

open Lib RemoteMirror

/-! ## What Redis has stored -/

/-- Everything that is stored was sent, and lives as long as `publish_telemetry` lets it. -/
structure Stored (s : RemoteMirror) : Prop where
  snapshots : ∀ p ∈ s.snapshotPuts, p.value ∈ s.snapshotsSent ∧ p.ttl = 5
  pictures : ∀ p ∈ s.picturePuts, (p.key, p.value) ∈ s.picturesSent ∧ p.ttl = 3

/-- Only the deposits and what was sent matter. -/
theorem Stored.congr {s s' : RemoteMirror} (h : Stored s)
    (hsnapshotPuts : s'.snapshotPuts = s.snapshotPuts)
    (hpicturePuts : s'.picturePuts = s.picturePuts)
    (hsnapshotsSent : s.snapshotsSent ⊆ s'.snapshotsSent)
    (hpicturesSent : s.picturesSent ⊆ s'.picturesSent) : Stored s' where
  snapshots p hp := by
    rw [hsnapshotPuts] at hp
    exact ⟨hsnapshotsSent (h.snapshots p hp).1, (h.snapshots p hp).2⟩
  pictures p hp := by
    rw [hpicturePuts] at hp
    exact ⟨hpicturesSent (h.pictures p hp).1, (h.pictures p hp).2⟩

theorem Stored.storesSnapshot {s : RemoteMirror} (h : Stored s) {now : Rat}
    {snapshot : RemoteSnapshot} (hsent : snapshot ∈ s.snapshotsSent) :
    Stored (s.storesSnapshot now snapshot) := by
  refine ⟨fun p hp => ?_, h.pictures⟩
  rcases List.mem_append.mp hp with hp | hp
  · exact h.snapshots p hp
  · obtain rfl := List.mem_singleton.mp hp
    exact ⟨hsent, rfl⟩

theorem Stored.storesPicture {s : RemoteMirror} (h : Stored s) {now : Rat}
    {item : String × Picture} (hsent : item ∈ s.picturesSent) :
    Stored (s.storesPicture now item) := by
  refine ⟨h.snapshots, fun p hp => ?_⟩
  rcases List.mem_append.mp hp with hp | hp
  · exact h.pictures p hp
  · obtain rfl := List.mem_singleton.mp hp
    exact ⟨hsent, rfl⟩

/-! ## What the REST service knows -/

/-- A `get` was sent, answered and received in this order. -/
def Receipt.InOrder (r : Receipt) : Prop := r.asked ≤ r.served ∧ r.served ≤ r.received

/-- A `get` that is awaited was sent in the past; if Redis has answered it, it was afterwards and
with what it held then. -/
structure Awaited {K V : Type} (puts : List (Deposit K V)) (k : K) (now asked : Rat)
    (answer : Option (RedisAnswer V)) : Prop where
  sent : asked ≤ now
  answered : ∀ a, answer = some a →
    asked ≤ a.served ∧ a.served ≤ now ∧ MayAnswer puts k a.served a.value

theorem awaited_asked {K V : Type} (puts : List (Deposit K V)) (k : K) (now : Rat) :
    Awaited puts k now now none :=
  ⟨le_rfl, fun _ ha => by cases ha⟩

theorem Awaited.serve {K V : Type} {puts : List (Deposit K V)} {k : K} {now asked : Rat}
    {answer : Option (RedisAnswer V)} (h : Awaited puts k now asked answer) {value : Option V}
    (hmay : MayAnswer puts k now value) :
    Awaited puts k now asked (some { served := now, value }) where
  sent := h.sent
  answered a ha := by
    cases ha
    exact ⟨h.sent, le_rfl, hmay⟩

theorem Awaited.later {K V : Type} {puts : List (Deposit K V)} {k : K} {now now' asked : Rat}
    {answer : Option (RedisAnswer V)} (h : Awaited puts k now asked answer) (hle : now ≤ now') :
    Awaited puts k now' asked answer where
  sent := h.sent.trans hle
  answered a ha := by
    obtain ⟨hasked, hserved, hmay⟩ := h.answered a ha
    exact ⟨hasked, hserved.trans hle, hmay⟩

theorem Awaited.grow {K V : Type} {puts puts' : List (Deposit K V)} (hsub : puts ⊆ puts') {k : K}
    {now asked : Rat} {answer : Option (RedisAnswer V)} (h : Awaited puts k now asked answer) :
    Awaited puts' k now asked answer where
  sent := h.sent
  answered a ha := by
    obtain ⟨hasked, hserved, hmay⟩ := h.answered a ha
    exact ⟨hasked, hserved, hmay.mono hsub⟩

/-- Redis held the snapshot when it answered with it, and it was fresh by the wall clock of the
service when it was received. -/
structure Taken (puts : List (Deposit Unit RemoteSnapshot)) (r : Receipt) (wall : Rat)
    (snapshot : RemoteSnapshot) : Prop where
  inOrder : r.InOrder
  held : Held puts () r.served snapshot
  fresh : wall - snapshot.timestamp < 3

/-- Redis held the picture for the approach when it answered with it, and a snapshot had the
approach LIVE; the frame counts as seen when its age says, before it was received. -/
structure ShownAt (snapshotPuts : List (Deposit Unit RemoteSnapshot))
    (picturePuts : List (Deposit String Picture)) (seen : Option Rat) (direction : String)
    (picture : Picture) (r : Receipt) : Prop where
  inOrder : r.InOrder
  held : Held picturePuts direction r.served picture
  live : ∃ q ∈ snapshotPuts, ∃ lane, (direction, lane) ∈ q.value.lanes
    ∧ lane.streamStatus = .live ∧ seen = some (r.received - lane.frameAgeMs.getD 0 / 1000)

/-- What the REST service can rely on. -/
structure Known (now : Rat) (s : RemoteMirror) : Prop where
  latest : ∀ snapshot, s.latestSnapshot = some snapshot →
    ∃ r, s.snapshotReceipt = some r ∧ r.received = s.remoteReceivedAt ∧ r.received ≤ now
      ∧ Taken s.snapshotPuts r s.takenAtWall snapshot
  pictures : ∀ direction picture, s.frameBuffer.get? direction = some picture →
    ∃ r, s.pictureReceipts.get? direction = some r ∧ r.received ≤ now
      ∧ ShownAt s.snapshotPuts s.picturePuts (s.frameUpdatedAt.get? direction) direction picture r
  awaited : ∀ asked answer, s.poll = .snapshot asked answer →
    Awaited s.snapshotPuts () now asked answer
  /-- The approaches still to be asked for are those of the latest snapshot. -/
  asking : ∀ asked answer left, s.poll = .frames asked answer left →
    (∃ snapshot, s.latestSnapshot = some snapshot ∧ ∀ item ∈ left, item ∈ snapshot.lanes)
      ∧ ∀ item ∈ left.head?, Awaited s.picturePuts item.1 now asked answer
  polling : s.isConnected = false → s.poll = .sleeping
  /-- Without a connection nothing is shown, and before the first snapshot no picture is. -/
  closed : s.isConnected = false → s.frameBuffer = ∅ ∧ s.remoteNodes = []
  unseen : s.latestSnapshot = none → s.frameBuffer = ∅
  running : s.systemRunning = true → s.latestSnapshot = none
    ∨ s.isConnected = true ∧ s.latestSnapshot.any (·.systemRunning) = true

theorem Known.later {now now' : Rat} {s : RemoteMirror} (h : Known now s) (hle : now ≤ now') :
    Known now' s where
  latest snapshot hs := by
    obtain ⟨r, hr, heq, hreceived, htaken⟩ := h.latest snapshot hs
    exact ⟨r, hr, heq, hreceived.trans hle, htaken⟩
  pictures direction picture hp := by
    obtain ⟨r, hr, hreceived, hshown⟩ := h.pictures direction picture hp
    exact ⟨r, hr, hreceived.trans hle, hshown⟩
  awaited asked answer hpoll := (h.awaited asked answer hpoll).later hle
  asking asked answer left hpoll := by
    obtain ⟨hlanes, hawaited⟩ := h.asking asked answer left hpoll
    exact ⟨hlanes, fun item hitem => (hawaited item hitem).later hle⟩
  polling := h.polling
  closed := h.closed
  unseen := h.unseen
  running := h.running

/-- While a `get` is awaited, the service is connected. -/
theorem Known.connected {now : Rat} {s : RemoteMirror} (h : Known now s)
    (hpoll : s.poll ≠ .sleeping) : s.isConnected = true := by
  by_contra hdown
  exact hpoll (h.polling (by simpa using hdown))

/-- The writer only adds deposits to what the reader knows of. -/
structure Grows (s s' : RemoteMirror) : Prop where
  latestSnapshot : s'.latestSnapshot = s.latestSnapshot
  remoteReceivedAt : s'.remoteReceivedAt = s.remoteReceivedAt
  snapshotReceipt : s'.snapshotReceipt = s.snapshotReceipt
  takenAtWall : s'.takenAtWall = s.takenAtWall
  pictureReceipts : s'.pictureReceipts = s.pictureReceipts
  isConnected : s'.isConnected = s.isConnected
  poll : s'.poll = s.poll
  systemRunning : s'.systemRunning = s.systemRunning
  remoteNodes : s'.remoteNodes = s.remoteNodes
  frameBuffer : s'.frameBuffer = s.frameBuffer
  frameUpdatedAt : s'.frameUpdatedAt = s.frameUpdatedAt
  snapshotPuts : s.snapshotPuts ⊆ s'.snapshotPuts
  picturePuts : s.picturePuts ⊆ s'.picturePuts

theorem Grows.refl (s : RemoteMirror) : Grows s s :=
  ⟨rfl, rfl, rfl, rfl, rfl, rfl, rfl, rfl, rfl, rfl, rfl, List.Subset.refl _, List.Subset.refl _⟩

theorem Taken.grow {puts puts' : List (Deposit Unit RemoteSnapshot)} (hsub : puts ⊆ puts')
    {r : Receipt} {wall : Rat} {snapshot : RemoteSnapshot} (h : Taken puts r wall snapshot) :
    Taken puts' r wall snapshot where
  inOrder := h.inOrder
  held := h.held.mono hsub
  fresh := h.fresh

theorem ShownAt.grow {snapshotPuts snapshotPuts' : List (Deposit Unit RemoteSnapshot)}
    {picturePuts picturePuts' : List (Deposit String Picture)}
    (hsnapshots : snapshotPuts ⊆ snapshotPuts') (hpictures : picturePuts ⊆ picturePuts')
    {seen : Option Rat} {direction : String} {picture : Picture} {r : Receipt}
    (h : ShownAt snapshotPuts picturePuts seen direction picture r) :
    ShownAt snapshotPuts' picturePuts' seen direction picture r where
  inOrder := h.inOrder
  held := h.held.mono hpictures
  live := by
    obtain ⟨q, hq, hrest⟩ := h.live
    exact ⟨q, hsnapshots hq, hrest⟩

theorem Known.grow {now : Rat} {s s' : RemoteMirror} (hg : Grows s s') (h : Known now s) :
    Known now s' where
  latest snapshot hs := by
    rw [hg.latestSnapshot] at hs
    obtain ⟨r, hr, heq, hreceived, htaken⟩ := h.latest snapshot hs
    rw [hg.snapshotReceipt, hg.remoteReceivedAt, hg.takenAtWall]
    exact ⟨r, hr, heq, hreceived, htaken.grow hg.snapshotPuts⟩
  pictures direction picture hp := by
    rw [hg.frameBuffer] at hp
    obtain ⟨r, hr, hreceived, hshown⟩ := h.pictures direction picture hp
    rw [hg.pictureReceipts, hg.frameUpdatedAt]
    exact ⟨r, hr, hreceived, hshown.grow hg.snapshotPuts hg.picturePuts⟩
  awaited asked answer hpoll := by
    rw [hg.poll] at hpoll
    exact (h.awaited asked answer hpoll).grow hg.snapshotPuts
  asking asked answer left hpoll := by
    rw [hg.poll] at hpoll
    rw [hg.latestSnapshot]
    obtain ⟨hlanes, hawaited⟩ := h.asking asked answer left hpoll
    exact ⟨hlanes, fun item hitem => (hawaited item hitem).grow hg.picturePuts⟩
  polling hc := by
    rw [hg.isConnected] at hc
    rw [hg.poll]
    exact h.polling hc
  closed hc := by
    rw [hg.isConnected] at hc
    rw [hg.frameBuffer, hg.remoteNodes]
    exact h.closed hc
  unseen hn := by
    rw [hg.latestSnapshot] at hn
    rw [hg.frameBuffer]
    exact h.unseen hn
  running hr := by
    rw [hg.systemRunning] at hr
    rw [hg.latestSnapshot, hg.isConnected]
    exact h.running hr

/-! ## The writer and what Redis stores -/

/-- The step leaves Redis in order, and the reader loses nothing. -/
def Writes (s s' : RemoteMirror) : Prop := Stored s' ∧ Grows s s'

theorem writes_refl {s : RemoteMirror} (h : Stored s) : Writes s s := ⟨h, Grows.refl s⟩

/-- What changes only the state of the writer. -/
theorem writes_publishing {s : RemoteMirror} (h : Stored s) (up : Bool) (publishing : Publishing) :
    Writes s { s with broadcasterConnected := up, publishing := publishing } :=
  ⟨h.congr rfl rfl (List.Subset.refl _) (List.Subset.refl _), { Grows.refl s with }⟩

theorem writes_publishTelemetry {s : RemoteMirror} (h : Stored s) (snapshot : RemoteSnapshot) :
    Writes s (s.publishTelemetry snapshot) := by
  unfold publishTelemetry
  cases s.publishing with
  | idle =>
      dsimp only
      by_cases hup : s.broadcasterConnected = true
      · rw [if_pos hup]
        exact ⟨h.congr rfl rfl (List.subset_append_left _ _) (List.Subset.refl _),
          { Grows.refl s with }⟩
      · rw [if_neg hup]
        exact writes_refl h
  | _ => exact writes_refl h

theorem writes_sendPictures {s : RemoteMirror} (h : Stored s) (left : List (String × Picture)) :
    Writes s (s.sendPictures left) := by
  cases left with
  | nil => exact writes_publishing h s.broadcasterConnected .channel
  | cons item left =>
      exact ⟨h.congr rfl rfl (List.Subset.refl _) (List.subset_append_left _ _),
        { Grows.refl s with }⟩

theorem writes_setSnapshot {s : RemoteMirror} (h : Stored s) (raises : Bool)
    (frameBuffer : List (String × Picture)) : Writes s (s.setSnapshot raises frameBuffer) := by
  unfold setSnapshot
  cases s.publishing with
  | snapshot snapshot =>
      cases raises with
      | true => exact writes_publishing h false .idle
      | false => exact writes_sendPictures h _
  | _ => exact writes_refl h

theorem writes_setPicture {s : RemoteMirror} (h : Stored s) (raises : Bool) :
    Writes s (s.setPicture raises) := by
  unfold setPicture
  cases s.publishing with
  | frames left =>
      cases left with
      | nil => exact writes_refl h
      | cons item left =>
          cases raises with
          | true => exact writes_publishing h false .idle
          | false => exact writes_sendPictures h left
  | _ => exact writes_refl h

theorem writes_published {s : RemoteMirror} (h : Stored s) (raises : Bool) :
    Writes s (s.published raises) := by
  unfold published
  cases s.publishing with
  | channel =>
      cases raises with
      | true => exact writes_publishing h false .idle
      | false => exact writes_publishing h s.broadcasterConnected .idle
  | _ => exact writes_refl h

theorem writes_storesSnapshot {s : RemoteMirror} (h : Stored s) {now : Rat}
    {snapshot : RemoteSnapshot} (hsent : snapshot ∈ s.snapshotsSent) :
    Writes s (s.storesSnapshot now snapshot) :=
  ⟨h.storesSnapshot hsent,
    { Grows.refl s with snapshotPuts := List.subset_append_left _ _ }⟩

theorem writes_storesPicture {s : RemoteMirror} (h : Stored s) {now : Rat}
    {item : String × Picture} (hsent : item ∈ s.picturesSent) :
    Writes s (s.storesPicture now item) :=
  ⟨h.storesPicture hsent, { Grows.refl s with picturePuts := List.subset_append_left _ _ }⟩

/-! ## What Redis answers -/

/-- Only what is awaited changes. -/
theorem Known.setPoll {now : Rat} {s : RemoteMirror} (h : Known now s) (poll : Poll)
    (hup : s.isConnected = true)
    (hawaited : ∀ asked answer, poll = .snapshot asked answer →
      Awaited s.snapshotPuts () now asked answer)
    (hasking : ∀ asked answer left, poll = .frames asked answer left →
      (∃ snapshot, s.latestSnapshot = some snapshot ∧ ∀ item ∈ left, item ∈ snapshot.lanes)
        ∧ ∀ item ∈ left.head?, Awaited s.picturePuts item.1 now asked answer) :
    Known now { s with poll := poll } where
  latest := h.latest
  pictures := h.pictures
  awaited := hawaited
  asking := hasking
  polling hc := absurd hup (by simpa using hc)
  closed := h.closed
  unseen := h.unseen
  running := h.running

theorem known_servesSnapshot {now : Rat} {s : RemoteMirror} (h : Known now s)
    {value : Option RemoteSnapshot} (hmay : MayAnswer s.snapshotPuts () now value) :
    Known now (s.servesSnapshot now value) := by
  unfold servesSnapshot
  cases hpoll : s.poll with
  | snapshot asked answer =>
      cases answer with
      | some answer => exact h
      | none =>
          have hawaited := h.awaited asked none hpoll
          refine h.setPoll _ (h.connected (by simp [hpoll])) (fun asked' answer' heq => ?_)
            (fun asked' answer' left heq => (by cases heq))
          cases heq
          exact hawaited.serve hmay
  | _ => exact h

theorem known_servesPicture {now : Rat} {s : RemoteMirror} (h : Known now s)
    {value : Option Picture}
    (hmay : ∀ direction, s.poll.direction? = some direction →
      MayAnswer s.picturePuts direction now value) :
    Known now (s.servesPicture now value) := by
  unfold servesPicture
  cases hpoll : s.poll with
  | frames asked answer left =>
      cases answer with
      | some answer => exact h
      | none =>
          obtain ⟨hlanes, hawaited⟩ := h.asking asked none left hpoll
          refine h.setPoll _ (h.connected (by simp [hpoll]))
            (fun asked' answer' heq => (by cases heq)) (fun asked' answer' left' heq => ?_)
          cases heq
          refine ⟨hlanes, fun item hitem => (hawaited item hitem).serve ?_⟩
          obtain ⟨rest, rfl⟩ := List.head?_eq_some_iff.mp hitem
          exact hmay item.1 (by rw [hpoll]; rfl)
  | _ => exact h

/-! ## The reader -/

theorem known_clear {now : Rat} {s : RemoteMirror} (h : Known now s) : Known now s.clear where
  latest := h.latest
  pictures direction picture hp := by cases hp
  awaited asked answer hpoll := by cases hpoll
  asking asked answer left hpoll := by cases hpoll
  polling _ := rfl
  closed _ := ⟨rfl, rfl⟩
  unseen _ := rfl
  running hr := by cases hr

theorem known_fail {now : Rat} {s : RemoteMirror} (h : Known now s) : Known now s.fail :=
  { known_clear h with
    polling := fun _ => rfl
    closed := fun _ => ⟨rfl, rfl⟩
    running := fun hr => by cases hr }

theorem known_wake {now : Rat} {s : RemoteMirror} (h : Known now s) (connects : Bool) :
    Known now (s.wake now connects) := by
  unfold wake
  cases hpoll : s.poll with
  | sleeping =>
      dsimp only
      by_cases hup : (s.isConnected || connects) = true
      · rw [if_pos hup]
        refine ⟨h.latest, h.pictures, fun asked answer heq => ?_,
          fun asked answer left heq => (by cases heq), fun hc => (by cases hc),
          fun hc => (by cases hc), h.unseen, fun hr => ?_⟩
        · cases heq
          exact awaited_asked _ _ _
        · rcases h.running hr with hnone | hrun
          · exact Or.inl hnone
          · exact Or.inr ⟨rfl, hrun.2⟩
      · -- without a connection before and after
        have hdown : s.isConnected = false := by
          rw [Bool.or_eq_true, not_or] at hup
          simpa using hup.1
        rw [if_neg hup]
        refine ⟨h.latest, h.pictures, fun asked answer heq => (by cases heq),
          fun asked answer left heq => (by cases heq), fun _ => rfl, fun _ => h.closed hdown,
          h.unseen, fun hr => ?_⟩
        rcases h.running hr with hnone | hrun
        · exact Or.inl hnone
        · rw [hdown] at hrun
          cases hrun.1
  | _ => exact h

/-- The pictures of the latest snapshot are asked for. -/
theorem known_askPictures {now : Rat} {s : RemoteMirror} (h : Known now s)
    (hup : s.isConnected = true) {left : List (String × RemoteLane)}
    (hlanes : ∃ snapshot, s.latestSnapshot = some snapshot ∧ ∀ item ∈ left, item ∈ snapshot.lanes) :
    Known now (s.askPictures now left) := by
  cases left with
  | nil =>
      exact h.setPoll .sleeping hup (fun asked answer heq => (by cases heq))
        (fun asked answer left heq => (by cases heq))
  | cons item left =>
      refine h.setPoll _ hup (fun asked answer heq => (by cases heq))
        (fun asked answer left' heq => ?_)
      cases heq
      exact ⟨hlanes, fun item' _ => awaited_asked _ _ _⟩

/-- A snapshot that Redis held and that is fresh is taken. -/
theorem known_take {now : Rat} {s : RemoteMirror} (h : Known now s) (hup : s.isConnected = true)
    {r : Receipt} (hreceived : r.received = now) {wall : Rat} {snapshot : RemoteSnapshot}
    (htaken : Taken s.snapshotPuts r wall snapshot)
    (hpoll : ∀ asked answer left, s.poll ≠ .frames asked answer left) :
    Known now (s.take r wall snapshot) where
  latest snapshot' heq := by
    obtain rfl := Option.some.inj heq
    exact ⟨r, rfl, rfl, hreceived.le, htaken⟩
  pictures := h.pictures
  awaited := h.awaited
  asking asked answer left heq := absurd heq (hpoll asked answer left)
  polling hc := absurd hup (by simpa [take] using hc)
  closed hc := absurd hup (by simpa [take] using hc)
  unseen hn := by cases hn
  running hr := Or.inr ⟨hup, hr⟩

theorem known_gotSnapshot {now : Rat} {s : RemoteMirror} (h : Known now s) (wall : Rat)
    (raises : Bool) : Known now (s.gotSnapshot now wall raises) := by
  unfold gotSnapshot
  cases hpoll : s.poll with
  | snapshot asked answer =>
      have hup := h.connected (by simp [hpoll])
      cases raises with
      | true => exact known_fail h
      | false =>
          dsimp only
          rw [if_neg (by simp)]
          cases answer with
          | none => exact h
          | some answer =>
              obtain ⟨served, value⟩ := answer
              obtain ⟨hasked, hserved, hmay⟩ := (h.awaited asked _ hpoll).answered _ rfl
              cases value with
              | none => exact known_clear h
              | some snapshot =>
                  dsimp only
                  by_cases hfresh : wall - snapshot.timestamp < 3
                  · rw [if_pos hfresh]
                    have htaken : Taken s.snapshotPuts { asked, served, received := now } wall
                        snapshot := ⟨⟨hasked, hserved⟩, mayAnswer_some.mp hmay, hfresh⟩
                    exact known_askPictures
                      (known_take h hup rfl htaken (fun _ _ _ heq => by cases hpoll.symm.trans heq))
                      hup ⟨snapshot, rfl, fun item hitem => hitem⟩
                  · rw [if_neg hfresh]
                    exact known_clear h
  | _ => exact h

/-- A picture of the latest snapshot that Redis held is kept, or else none is. -/
theorem known_keepPicture {now : Rat} {s : RemoteMirror} (h : Known now s)
    {snapshot : RemoteSnapshot} (hlatest : s.latestSnapshot = some snapshot)
    (hup : s.isConnected = true) {direction : String} {lane : RemoteLane}
    (hlane : (direction, lane) ∈ snapshot.lanes) {r : Receipt} (hreceived : r.received = now)
    (hinOrder : r.InOrder) {value : Option Picture}
    (hmay : MayAnswer s.picturePuts direction r.served value) :
    Known now (s.keepPicture r value direction lane) := by
  -- a picture that is not kept is dropped
  have herase : Known now { s with frameBuffer := s.frameBuffer.erase direction } := by
    refine ⟨h.latest, fun direction' picture hget => ?_, h.awaited, h.asking, h.polling,
      fun hc => ?_, fun hn => absurd (hlatest.symm.trans hn) (by simp), h.running⟩
    · exact h.pictures direction' picture (Dict.get?_of_get?_erase _ hget).2
    · exact absurd hup (by simpa using hc)
  unfold keepPicture
  cases value with
  | none => exact herase
  | some picture =>
      dsimp only
      by_cases hkeep : picture ≠ [] ∧ lane.streamStatus = .live
      · rw [if_pos hkeep]
        obtain ⟨_, -, -, -, htaken⟩ := h.latest snapshot hlatest
        obtain ⟨q, hq, -, rfl, -⟩ := htaken.held
        refine ⟨h.latest, fun direction' picture' hget => ?_, h.awaited, h.asking, h.polling,
          fun hc => ?_, fun hn => absurd (hlatest.symm.trans hn) (by simp), h.running⟩
        · dsimp only at hget ⊢
          rw [Dict.get?_set] at hget
          by_cases hdir : direction' = direction
          · -- the picture just received
            subst hdir
            rw [if_pos rfl] at hget
            obtain rfl := Option.some.inj hget
            exact ⟨r, Dict.get?_set_self _ _ _, hreceived.le, hinOrder, mayAnswer_some.mp hmay,
              q, hq, lane, hlane, hkeep.2, Dict.get?_set_self _ _ _⟩
          · rw [if_neg hdir] at hget
            rw [Dict.get?_set_of_ne _ _ hdir, Dict.get?_set_of_ne _ _ hdir]
            exact h.pictures direction' picture' hget
        · exact absurd hup (by simpa using hc)
      · rw [if_neg hkeep]
        exact herase

theorem keepPicture_latestSnapshot (s : RemoteMirror) (r : Receipt) (value : Option Picture)
    (direction : String) (lane : RemoteLane) :
    (s.keepPicture r value direction lane).latestSnapshot = s.latestSnapshot
      ∧ (s.keepPicture r value direction lane).isConnected = s.isConnected := by
  unfold keepPicture
  split
  · split_ifs <;> exact ⟨rfl, rfl⟩
  · exact ⟨rfl, rfl⟩

theorem known_gotPicture {now : Rat} {s : RemoteMirror} (h : Known now s) (raises : Bool) :
    Known now (s.gotPicture now raises) := by
  unfold gotPicture
  cases hpoll : s.poll with
  | frames asked answer left =>
      cases left with
      | nil => exact h
      | cons item left =>
          obtain ⟨direction, lane⟩ := item
          have hup := h.connected (by simp [hpoll])
          cases raises with
          | true => exact known_fail h
          | false =>
              dsimp only
              rw [if_neg (by simp)]
              cases answer with
              | none => exact h
              | some answer =>
                  obtain ⟨served, value⟩ := answer
                  obtain ⟨⟨snapshot, hlatest, hlanes⟩, hawaited⟩ := h.asking asked _ _ hpoll
                  obtain ⟨hasked, hserved, hmay⟩ := (hawaited _ rfl).answered _ rfl
                  obtain ⟨hlatest', hup'⟩ := keepPicture_latestSnapshot s
                    { asked, served, received := now } value direction lane
                  exact known_askPictures
                    (known_keepPicture h hlatest hup (hlanes _ List.mem_cons_self) rfl
                      ⟨hasked, hserved⟩ hmay)
                    (hup'.trans hup) ⟨snapshot, hlatest'.trans hlatest,
                      fun item hitem => hlanes item (List.mem_cons_of_mem _ hitem)⟩
  | _ => exact h

/-! ## Every run -/

/-- What the reader leaves as it is. -/
structure Reads (s s' : RemoteMirror) : Prop where
  snapshotPuts : s'.snapshotPuts = s.snapshotPuts
  picturePuts : s'.picturePuts = s.picturePuts
  snapshotsSent : s'.snapshotsSent = s.snapshotsSent
  picturesSent : s'.picturesSent = s.picturesSent

theorem Stored.reads {s s' : RemoteMirror} (h : Stored s) (hr : Reads s s') : Stored s' :=
  h.congr hr.snapshotPuts hr.picturePuts (by rw [hr.snapshotsSent]; exact List.Subset.refl _)
    (by rw [hr.picturesSent]; exact List.Subset.refl _)

theorem reads_askPictures (s : RemoteMirror) (now : Rat) (left : List (String × RemoteLane)) :
    Reads s (s.askPictures now left) := by
  cases left <;> exact ⟨rfl, rfl, rfl, rfl⟩

theorem reads_keepPicture (s : RemoteMirror) (r : Receipt) (value : Option Picture)
    (direction : String) (lane : RemoteLane) : Reads s (s.keepPicture r value direction lane) := by
  unfold keepPicture
  split
  · split_ifs <;> exact ⟨rfl, rfl, rfl, rfl⟩
  · exact ⟨rfl, rfl, rfl, rfl⟩

theorem Reads.trans {s s' s'' : RemoteMirror} (h : Reads s s') (h' : Reads s' s'') :
    Reads s s'' :=
  ⟨h'.snapshotPuts.trans h.snapshotPuts, h'.picturePuts.trans h.picturePuts,
    h'.snapshotsSent.trans h.snapshotsSent, h'.picturesSent.trans h.picturesSent⟩

theorem reads_gotSnapshot (s : RemoteMirror) (now wall : Rat) (raises : Bool) :
    Reads s (s.gotSnapshot now wall raises) := by
  unfold gotSnapshot
  split
  · split_ifs
    · exact ⟨rfl, rfl, rfl, rfl⟩
    · split
      · exact ⟨rfl, rfl, rfl, rfl⟩
      · exact ⟨rfl, rfl, rfl, rfl⟩
      · split_ifs
        · have htake : ∀ r snapshot, Reads s (s.take r wall snapshot) :=
            fun _ _ => ⟨rfl, rfl, rfl, rfl⟩
          exact (htake _ _).trans (reads_askPictures _ _ _)
        · exact ⟨rfl, rfl, rfl, rfl⟩
  · exact ⟨rfl, rfl, rfl, rfl⟩

theorem reads_gotPicture (s : RemoteMirror) (now : Rat) (raises : Bool) :
    Reads s (s.gotPicture now raises) := by
  unfold gotPicture
  split
  · split_ifs
    · exact ⟨rfl, rfl, rfl, rfl⟩
    · split
      · exact ⟨rfl, rfl, rfl, rfl⟩
      · exact (reads_keepPicture _ _ _ _ _).trans (reads_askPictures _ _ _)
  · exact ⟨rfl, rfl, rfl, rfl⟩

theorem reads_wake (s : RemoteMirror) (now : Rat) (connects : Bool) :
    Reads s (s.wake now connects) := by
  unfold wake
  split
  · split_ifs <;> exact ⟨rfl, rfl, rfl, rfl⟩
  · exact ⟨rfl, rfl, rfl, rfl⟩

theorem reads_servesSnapshot (s : RemoteMirror) (now : Rat) (value : Option RemoteSnapshot) :
    Reads s (s.servesSnapshot now value) := by
  unfold servesSnapshot
  split <;> exact ⟨rfl, rfl, rfl, rfl⟩

theorem reads_servesPicture (s : RemoteMirror) (now : Rat) (value : Option Picture) :
    Reads s (s.servesPicture now value) := by
  unfold servesPicture
  split <;> exact ⟨rfl, rfl, rfl, rfl⟩

/-- What one step keeps. -/
theorem stored_known_step {now : Rat} {s : RemoteMirror} (hs : Stored s) (h : Known now s)
    {i : MirrorStep} (hredis : s.RedisMay now i) :
    Stored (s.step now i) ∧ Known now (s.step now i) := by
  have hwrites : ∀ {s'}, Writes s s' → Stored s' ∧ Known now s' := fun hw => ⟨hw.1, h.grow hw.2⟩
  cases i with
  | broadcaster up => exact hwrites (writes_publishing hs up s.publishing)
  | publishTelemetry snapshot => exact hwrites (writes_publishTelemetry hs snapshot)
  | setSnapshot raises frameBuffer => exact hwrites (writes_setSnapshot hs raises frameBuffer)
  | setPicture raises => exact hwrites (writes_setPicture hs raises)
  | published raises => exact hwrites (writes_published hs raises)
  | storesSnapshot snapshot => exact hwrites (writes_storesSnapshot hs hredis)
  | storesPicture item => exact hwrites (writes_storesPicture hs hredis)
  | wake connects => exact ⟨hs.reads (reads_wake s now connects), known_wake h connects⟩
  | gotSnapshot wall raises =>
      exact ⟨hs.reads (reads_gotSnapshot s now wall raises), known_gotSnapshot h wall raises⟩
  | gotPicture raises =>
      exact ⟨hs.reads (reads_gotPicture s now raises), known_gotPicture h raises⟩
  | servesSnapshot value =>
      exact ⟨hs.reads (reads_servesSnapshot s now value), known_servesSnapshot h hredis⟩
  | servesPicture value =>
      exact ⟨hs.reads (reads_servesPicture s now value), known_servesPicture h hredis⟩

theorem reached_stored_known {epoch now : Rat} {s : RemoteMirror} (h : Reached epoch now s) :
    Stored s ∧ Known now s := by
  induction h with
  | start connects =>
      refine ⟨⟨fun p hp => (by cases hp), fun p hp => (by cases hp)⟩, ?_⟩
      exact ⟨fun snapshot hs => (by cases hs), fun direction picture hp => (by cases hp),
        fun asked answer hpoll => (by cases hpoll), fun asked answer left hpoll => (by cases hpoll),
        fun _ => rfl, fun _ => ⟨rfl, rfl⟩, fun _ => rfl, fun _ => Or.inl rfl⟩
  | step _ hle hredis ih => exact stored_known_step ih.1 (ih.2.later hle) hredis

/-- The steps can follow one another from this state on. -/
def CanFollow : Rat → RemoteMirror → List (Rat × MirrorStep) → Prop
  | _, _, [] => True
  | now, s, (now', i) :: steps =>
      now ≤ now' ∧ s.RedisMay now' i ∧ CanFollow now' (s.step now' i) steps

theorem reached_foldl {epoch : Rat} (steps : List (Rat × MirrorStep)) {now : Rat}
    {s : RemoteMirror} (h : Reached epoch now s) (hsteps : CanFollow now s steps) :
    Reached epoch ((steps.map Prod.fst).getLastD now)
      (steps.foldl (fun s i => s.step i.1 i.2) s) := by
  induction steps generalizing now s with
  | nil => exact h
  | cons i steps ih =>
      obtain ⟨hle, hredis, htail⟩ := hsteps
      rw [List.map_cons, List.getLastD_cons]
      exact ih (h.step hle hredis) htail

/-- A snapshot of a running system and the picture of its northern approach. -/
def mirrorSnapshot : RemoteSnapshot where
  timestamp := 1
  systemRunning := true
  nodes := []
  lanes := [("north", { streamStatus := .live, frameAgeMs := some 200, age_nonneg := by simp })]
  healthComponents := .obj []
  stageCounters := .obj []
  processingErrors := .int 0
  yoloMs := .null

/-- It is published and taken; both answers of Redis are some time on their way. -/
def mirrorSteps : List (Rat × MirrorStep) :=
  [(0, .broadcaster true), (1, .publishTelemetry mirrorSnapshot),
    (1, .storesSnapshot mirrorSnapshot),
    (1, .setSnapshot false [("north", [0xff]), ("active", [])]),
    (1, .storesPicture ("north", [0xff])), (1, .setPicture false), (3 / 2, .wake true),
    (7 / 4, .servesSnapshot (some mirrorSnapshot)), (2, .gotSnapshot 2 false),
    (2, .servesPicture (some [0xff])), (9 / 4, .gotPicture false)]

def mirrorTrace : RemoteMirror :=
  mirrorSteps.foldl (fun s i => s.step i.1 i.2) { isConnected := false }

theorem mirrorTrace_reached : Reached 0 (9 / 4) mirrorTrace := by
  refine reached_foldl mirrorSteps (.start false) ⟨by norm_num, trivial, by norm_num, trivial,
    by norm_num, List.mem_singleton_self _, by norm_num, trivial, by norm_num,
    List.mem_singleton_self _, by norm_num, trivial, by norm_num, trivial, by norm_num, ?_,
    by norm_num, trivial, by norm_num, ?_, by norm_num, trivial, trivial⟩
  · exact mayAnswer_some.mpr ⟨_, List.mem_singleton_self _, rfl, rfl, by norm_num,
      by norm_num [Deposit.expires]⟩
  · intro direction hdirection
    have hnorth : some direction = some "north" := hdirection.symm.trans (by decide +kernel)
    obtain rfl := Option.some.inj hnorth
    exact mayAnswer_some.mpr (by decide +kernel)

/-- **A service that calls the system running has heard so lately.** It received, within the three
seconds it trusts one for, a snapshot that says so and that was not three seconds old by its wall
clock then. The runtime had sent the snapshot, and Redis had stored it less than five seconds
before it answered. -/
theorem running_was_reported {epoch now now' : Rat} {s : RemoteMirror} (h : Reached epoch now s)
    (hle : now ≤ now') (hrun : (s.getHealthDict now').status = "RUNNING") :
    ∃ r, s.snapshotReceipt = some r ∧ r.asked ≤ r.served ∧ r.served ≤ r.received
      ∧ r.received ≤ now' ∧ now' < r.received + 3
      ∧ ∃ p ∈ s.snapshotPuts, p.value ∈ s.snapshotsSent ∧ s.latestSnapshot = some p.value
        ∧ p.value.systemRunning = true ∧ p.time ≤ r.served ∧ r.served < p.time + 5
        ∧ s.takenAtWall - p.value.timestamp < 3 := by
  obtain ⟨hstored, hknown⟩ := reached_stored_known h
  have hboth : (s.isFresh now' && s.latestSnapshot.any (·.systemRunning)) = true := by
    by_contra hno
    rw [getHealthDict, if_neg hno] at hrun
    exact absurd (show "STOPPED" = "RUNNING" from hrun) (by decide)
  rw [Bool.and_eq_true, Option.any_eq_true] at hboth
  obtain ⟨hfresh, snapshot, hlatest, hsays⟩ := hboth
  obtain ⟨r, hr, heq, hreceived, htaken⟩ := hknown.latest snapshot hlatest
  obtain ⟨p, hp, -, rfl, hput, hlive⟩ := htaken.held.within fun p hp => (hstored.snapshots p hp).2
  have hlate : now' - s.remoteReceivedAt < 3 := of_decide_eq_true hfresh
  exact ⟨r, hr, htaken.inOrder.1, htaken.inOrder.2, hreceived.trans hle, by linarith, p, hp,
    (hstored.snapshots p hp).1, hlatest, hsays, hput, hlive, htaken.fresh⟩

theorem running_was_reported_holds :
    ∃ r, mirrorTrace.snapshotReceipt = some r ∧ r.asked ≤ r.served ∧ r.served ≤ r.received
      ∧ r.received ≤ 3 ∧ 3 < r.received + 3
      ∧ ∃ p ∈ mirrorTrace.snapshotPuts, p.value ∈ mirrorTrace.snapshotsSent
        ∧ mirrorTrace.latestSnapshot = some p.value ∧ p.value.systemRunning = true
        ∧ p.time ≤ r.served ∧ r.served < p.time + 5
        ∧ mirrorTrace.takenAtWall - p.value.timestamp < 3 :=
  running_was_reported mirrorTrace_reached (by decide +kernel) (by decide +kernel)

/-- **A picture in a stream is a recent one of its approach.** The runtime had sent it for the
approach, and Redis had stored it less than three seconds before it answered with it; the approach
was LIVE in a snapshot the runtime published, and the age that snapshot gave the frame and the
time since the picture was received are three seconds at most. -/
theorem streamed_is_recent {epoch now now' : Rat} {s : RemoteMirror} (h : Reached epoch now s)
    {direction header : String} {isPrevious : Bool} {picture : Picture}
    (hsends : s.streamIteration now' direction isPrevious = .sends header picture) :
    (∃ r, s.pictureReceipts.get? direction = some r ∧ r.asked ≤ r.served ∧ r.served ≤ r.received
        ∧ r.received ≤ now
        ∧ (∃ p ∈ s.picturePuts, p.key = direction ∧ p.value = picture
          ∧ (direction, picture) ∈ s.picturesSent ∧ p.time ≤ r.served ∧ r.served < p.time + 3)
        ∧ ∃ q ∈ s.snapshotPuts, q.value ∈ s.snapshotsSent ∧ ∃ lane,
          (direction, lane) ∈ q.value.lanes ∧ lane.streamStatus = .live
          ∧ lane.frameAgeMs.getD 0 / 1000 + (now' - r.received) ≤ 3)
      ∧ picture ≠ [] ∧ s.isConnected = true ∧ s.latestSnapshot.any (·.systemRunning) = true := by
  obtain ⟨hstored, hknown⟩ := reached_stored_known h
  unfold streamIteration at hsends
  by_cases hstopped : s.systemRunning = false
  · rw [if_pos hstopped] at hsends
    cases hsends
  rw [if_neg hstopped] at hsends
  cases hbuffer : s.frameBuffer.get? direction with
  | none => rw [hbuffer] at hsends; cases hsends
  | some live =>
      cases hupdated : s.frameUpdatedAt.get? direction with
      | none => rw [hbuffer, hupdated] at hsends; cases hsends
      | some seen =>
          rw [hbuffer, hupdated] at hsends
          dsimp only at hsends
          -- the picture is there and is not too old to be sent
          by_cases hstale : live = [] ∨ 3 < now' - seen
          · rw [if_pos hstale] at hsends
            cases hsends
          rw [if_neg hstale] at hsends
          cases isPrevious with
          | true => cases hsends
          | false =>
              cases hsends
              obtain ⟨hne, hseen⟩ := not_or.mp hstale
              obtain ⟨r, hr, hreceived, hshown⟩ := hknown.pictures direction picture hbuffer
              obtain ⟨p, hp, rfl, rfl, hput, hlive⟩ :=
                hshown.held.within fun p hp => (hstored.pictures p hp).2
              obtain ⟨q, hq, lane, hlane, hstatus, heq⟩ := hshown.live
              -- the time of the picture is the snapshot's age, taken off its receipt
              have hseen' : seen = r.received - lane.frameAgeMs.getD 0 / 1000 :=
                Option.some.inj (hupdated.symm.trans heq)
              have hshare : lane.frameAgeMs.getD 0 / 1000 + (now' - r.received) ≤ 3 := by linarith
              refine ⟨⟨r, hr, hshown.inOrder.1, hshown.inOrder.2, hreceived,
                ⟨p, hp, rfl, rfl, (hstored.pictures p hp).1, hput, hlive⟩, q, hq,
                (hstored.snapshots q hq).1, lane, hlane, hstatus, hshare⟩, hne, ?_⟩
              -- without a snapshot there would be no picture
              rcases hknown.running (by simpa using hstopped) with hnone | hrun
              · rw [hknown.unseen hnone] at hbuffer
                cases hbuffer
              · exact hrun

theorem streamed_is_recent_holds :
    (∃ r, mirrorTrace.pictureReceipts.get? "north" = some r ∧ r.asked ≤ r.served
        ∧ r.served ≤ r.received ∧ r.received ≤ 9 / 4
        ∧ (∃ p ∈ mirrorTrace.picturePuts, p.key = "north" ∧ p.value = [0xff]
          ∧ ("north", [0xff]) ∈ mirrorTrace.picturesSent ∧ p.time ≤ r.served
          ∧ r.served < p.time + 3)
        ∧ ∃ q ∈ mirrorTrace.snapshotPuts, q.value ∈ mirrorTrace.snapshotsSent ∧ ∃ lane,
          ("north", lane) ∈ q.value.lanes ∧ lane.streamStatus = .live
          ∧ lane.frameAgeMs.getD 0 / 1000 + (3 - r.received) ≤ 3)
      ∧ ([0xff] : Picture) ≠ [] ∧ mirrorTrace.isConnected = true
      ∧ mirrorTrace.latestSnapshot.any (·.systemRunning) = true :=
  have hsends : mirrorTrace.streamIteration 3 "north" false
      = .sends (partHeader 1 "") [0xff] := by decide +kernel
  streamed_is_recent mirrorTrace_reached hsends

/-- **Without its connection the REST service shows nothing**: it lists no camera node, and every
stream ends at its next iteration. -/
theorem disconnected_shows_nothing {epoch now : Rat} {s : RemoteMirror} (h : Reached epoch now s)
    (hdown : s.isConnected = false) :
    s.remoteNodes = [] ∧ (∀ now' direction isPrevious,
      s.streamIteration now' direction isPrevious = .ended)
      ∧ (s.systemRunning = true → s.latestSnapshot = none) := by
  obtain ⟨-, hknown⟩ := reached_stored_known h
  obtain ⟨hbuffer, hnodes⟩ := hknown.closed hdown
  refine ⟨hnodes, fun now' direction isPrevious => ?_, fun hrun => ?_⟩
  · unfold streamIteration
    by_cases hstopped : s.systemRunning = false
    · rw [if_pos hstopped]
    · rw [if_neg hstopped, hbuffer]
      rfl
  · rcases hknown.running hrun with hnone | hup
    · exact hnone
    · rw [hdown] at hup
      cases hup.1

theorem disconnected_shows_nothing_holds :
    ((mirrorTrace.step 3 (.wake true)).step 3 (.gotSnapshot 0 true)).remoteNodes = []
      ∧ (∀ now' direction isPrevious,
        ((mirrorTrace.step 3 (.wake true)).step 3 (.gotSnapshot 0 true)).streamIteration now'
          direction isPrevious = .ended)
      ∧ (((mirrorTrace.step 3 (.wake true)).step 3 (.gotSnapshot 0 true)).systemRunning = true →
        ((mirrorTrace.step 3 (.wake true)).step 3 (.gotSnapshot 0 true)).latestSnapshot = none) :=
  disconnected_shows_nothing
    ((mirrorTrace_reached.step (i := .wake true) (by decide +kernel) trivial).step
      (i := .gotSnapshot 0 true) le_rfl trivial) (by decide +kernel)

end SmartTraffic.Split
