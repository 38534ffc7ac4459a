/-
The shared channels serve drivers as channels of their own would: no request faults, drivers are told
what unshared channels give, and the trace holds the events in their order. A request made of cells at
rest leaves cells at rest, and a run follows by induction.
-/
import Sallyport.Dma.Driver
import Sallyport.Proofs.Dma.Ownership
import Sallyport.Proofs.Trace.Log

namespace Sallyport.Dma

/-! ## Channels nobody shares -/

namespace Driver

namespace Request

/-- A request made of channels that nobody shares: the channel they give, and what they become. -/
def make : Request → Channels → Option UInt32 × Channels
  | .init, c => (none, Channels.new c.layout)
  | .alloc k, c => c.alloc k
  | .free k id, c => (none, if id < 0 then c else c.release k id.toUInt32)

/-- What a driver is told of the channel that was given. -/
def reply : Request → Option UInt32 → Option Int32
  | .alloc _, some id => some id.toInt32
  | .alloc _, none => some noChannel
  | _, _ => none

/-- What there is to record of a request. Giving back a negative number is no event. -/
def event? : Request → Option UInt32 → Option Event
  | .init, _ => some .init
  | .alloc k, some id => some (.alloc k id)
  | .alloc k, none => some (.exhausted k)
  | .free k id, _ => if id < 0 then none else some (.free k id.toUInt32)

end Request

/-- Requests one after another, made of channels that nobody shares. -/
def alone : List Request → Channels → List (Option UInt32) × Channels
  | [], c => ([], c)
  | r :: requests, c =>
    let (given, c) := r.make c
    let (rest, c) := alone requests c
    (given :: rest, c)

theorem length_alone (requests : List Request) : ∀ c : Channels, (alone requests c).1.length = requests.length := by
  induction requests with
  | nil => intro c; rfl
  | cons r requests ih => intro c; exact congrArg (· + 1) (ih _)

/-- An event as an entry of a log, with the line it is recorded from. -/
def entryOf (e : Event) : UInt16 × Event := (e.line, e)

/-- The events of requests that were given these channels, as entries of a log. -/
def entries (requests : List Request) (given : List (Option UInt32)) : List (UInt16 × Event) :=
  ((List.zipWith Request.event? requests given).flatMap Option.toList).map entryOf

/-! ## A driver at rest -/

/-- Channels and a log that nobody has claimed. -/
def atRest (c : Channels) (log : Trace.Ring Event) : Driver := ⟨Cell.new c, Cell.new log⟩

/-- One request finds neither cell claimed, does what it does to unshared channels, and claims neither. -/
theorem serve_atRest (r : Request) (c : Channels) (log : Trace.Ring Event) :
    serve r (atRest c log) = (.ok (r.reply (r.make c).1),
      atRest (r.make c).2 (log.record ((r.event? (r.make c).1).toList.map entryOf))) := by
  cases r with
  | init => rfl
  | alloc k =>
    -- The log is not the cell that is claimed meanwhile, so the event gets into it.
    have halloc : Driver.alloc k (atRest c log) =
        let served := granted k (c.alloc k).1 ⟨⟨true, (c.alloc k).2⟩, Cell.new log⟩
        (.ok served.1, { served.2 with channels := served.2.channels.release }) := rfl
    unfold serve Request.make
    dsimp only
    rw [halloc]
    rcases c.alloc k with ⟨given, c'⟩
    cases given with
    | none => rfl
    | some id => rfl
  | free k id =>
    unfold serve Driver.free Request.make Request.event?
    by_cases hid : id < 0
    · simp only [if_pos hid]
      rfl
    · simp only [if_neg hid]
      rfl

theorem run_atRest (requests : List Request) : ∀ (c : Channels) (log : Trace.Ring Event),
    run requests (atRest c log) =
      (List.zipWith (fun r given => .ok (r.reply given)) requests (alone requests c).1,
        atRest (alone requests c).2 (log.record (entries requests (alone requests c).1))) := by
  induction requests with
  | nil => intro c log; rfl
  | cons r requests ih =>
    intro c log
    have hentries : entries (r :: requests) (alone (r :: requests) c).1 =
        (r.event? (r.make c).1).toList.map entryOf ++ entries requests (alone requests (r.make c).2).1 :=
      List.map_append
    unfold run
    rw [serve_atRest, hentries, Trace.Ring.record_append]
    dsimp only
    rw [ih]
    rfl

end Driver

/-! ## The numbers channels give -/

/-- Channels whose pools keep to the places of a layout, whatever is held of them. -/
def Channels.KeepsTo (c : Channels) (l : Layout) : Prop := ∃ held, Tenancy.Inv l ⟨c, held⟩

namespace Channels.KeepsTo

variable {c : Channels} {l : Layout}

theorem new (hl : l.Fits) : (Channels.new l).KeepsTo l := ⟨_, Tenancy.inv_new hl⟩

theorem alloc (hl : l.Fits) (h : c.KeepsTo l) (k : Kind) : (c.alloc k).2.KeepsTo l := by
  obtain ⟨held, hinv⟩ := h
  have hstep := hinv.alloc hl k
  unfold Tenancy.step at hstep
  rcases ha : c.alloc k with ⟨given, c'⟩
  simp only [ha] at hstep
  cases given with
  | none => exact ⟨_, hstep⟩
  | some id => exact ⟨_, hstep⟩

theorem make (hl : l.Fits) (h : c.KeepsTo l) (r : Driver.Request) : (r.make c).2.KeepsTo l := by
  cases r with
  | init =>
    obtain ⟨held, hinv⟩ := h
    show (Channels.new c.layout).KeepsTo l
    rw [show c.layout = l from hinv.layout_eq]
    exact new hl
  | alloc k => exact h.alloc hl k
  | free k id =>
    show (if id < 0 then c else c.release k id.toUInt32).KeepsTo l
    split
    · exact h
    · obtain ⟨held, hinv⟩ := h
      exact ⟨_, hinv.release k id.toUInt32⟩

theorem alone (hl : l.Fits) (requests : List Driver.Request) : ∀ {c : Channels}, c.KeepsTo l →
    (Driver.alone requests c).2.KeepsTo l := by
  induction requests with
  | nil => intro c h; exact h
  | cons r requests ih => intro c h; exact ih (h.make hl r)

theorem inRange (hl : l.Fits) (h : c.KeepsTo l) {k : Kind} {id : UInt32} (ha : (c.alloc k).1 = some id) :
    l.InRange k id := by
  obtain ⟨held, hinv⟩ := h
  obtain ⟨index, pool, hp, rfl, -⟩ := Channels.alloc_eq_some (Prod.ext ha rfl : c.alloc k = (some id, _))
  have hplace := hinv.mem_places hp
  have hnumber := Tenancy.toNat_number hl index hplace
  have hlt := Layout.lt_of_mem_places hplace
  rw [show c.layout = l from hinv.layout_eq]
  exact ⟨by omega, by omega⟩

end Channels.KeepsTo

/-! ## Numbers with a sign -/

theorem toInt_toInt32 {id : UInt32} (h : id.toNat < 2 ^ 31) : id.toInt32.toInt = id.toNat := by
  show id.toBitVec.toInt = _
  exact BitVec.toInt_eq_toNat_of_lt (by show 2 * id.toNat < 2 ^ 32; omega)

theorem Layout.Fits.toInt_toInt32 {l : Layout} (hl : l.Fits) {k : Kind} {id : UInt32} (h : l.InRange k id) :
    id.toInt32.toInt = id.toNat := by
  have hend := hl.end_le k
  have hlt := h.2
  exact Dma.toInt_toInt32 (by omega)

theorem toNat_toUInt32 {id : Int32} (h : 0 ≤ id) : (id.toUInt32.toNat : ℤ) = id.toInt := by
  rw [Int32.toNat_toUInt32_of_le h, Int32.cast_toNatClampNeg id h]

namespace Driver

/-! ## The boundary -/

/-- Shared channels serve as unshared ones: after any requests on an accepted configuration none has faulted,
each was answered with what unshared channels gave, and the trace is the log of the requests. A number that is
given is never negative, and giving back a negative one does nothing. -/
theorem driver_serves_as_unshared {config : Platform.ChannelConfig} {l : Layout} (h : config.accept = .ok l)
    (requests : List Request) :
    let served := run requests (boot l)
    let own := alone requests (Channels.new l)
    let log := (Trace.Ring.new 16 Event.idle).record (entries requests own.1)
    own.1.length = requests.length ∧
      served = (List.zipWith (fun r given => .ok (r.reply given)) requests own.1, ⟨Cell.new own.2, Cell.new log⟩) ∧
      (∀ rs, Trace.Groups (entries requests own.1) rs →
        log.replay = (rs.drop (rs.length - 16)).flatMap Trace.EventRun.events) ∧
      (∀ k, ∃ n, (serve (.alloc k) served.2).1 = .ok (some n) ∧ (n = -1 ↔ (own.2.alloc k).1 = none) ∧
        ∀ id, (own.2.alloc k).1 = some id → l.InRange k id ∧ 0 ≤ n ∧ n.toInt = id.toNat) ∧
      (∀ k id, id < 0 → serve (.free k id) served.2 = (.ok none, served.2)) ∧
      ∀ k id, 0 ≤ id → ∃ n : UInt32, (n.toNat : ℤ) = id.toInt ∧ serve (.free k id) served.2 =
        (.ok none, ⟨Cell.new (own.2.release k n), Cell.new (log.entry (Event.line (.free k n)) (.free k n))⟩) := by
  intro served own log
  have hl := Platform.ChannelConfig.fits_of_accept h
  have hserved : served = (_, atRest own.2 log) := run_atRest requests (Channels.new l) (Trace.Ring.new 16 .idle)
  have hkeeps : own.2.KeepsTo l := (Channels.KeepsTo.new hl).alone hl requests
  refine ⟨length_alone requests _, hserved, fun rs hrs => ?_, fun k => ?_, fun k id hid => ?_, fun k id hid => ?_⟩
  · have hlogs := (Trace.Logs.new 16 Event.idle).record (entries requests own.1)
    rw [Trace.groups_iff.1 hrs]
    exact hlogs.replay_eq
  · rw [hserved, serve_atRest]
    show ∃ n, Except.ok (Request.reply (.alloc k) (own.2.alloc k).1) = .ok (some n) ∧ _
    cases hgiven : (own.2.alloc k).1 with
    | none => exact ⟨noChannel, rfl, by simp [noChannel], by simp⟩
    | some id =>
      have hrange := hkeeps.inRange hl hgiven
      have hint := hl.toInt_toInt32 hrange
      have hpos : (0 : Int32) ≤ id.toInt32 := by
        rw [Int32.le_iff_toInt_le, hint]
        exact Int.natCast_nonneg _
      refine ⟨id.toInt32, rfl, ?_, ?_⟩
      · refine iff_of_false (fun e => ?_) (by simp)
        rw [e] at hpos
        exact absurd hpos (by decide)
      · rintro _ ⟨⟩
        exact ⟨hrange, hpos, hint⟩
  · rw [hserved, serve_atRest]
    unfold Request.make Request.event?
    simp only [if_pos hid]
    rfl
  · refine ⟨id.toUInt32, toNat_toUInt32 hid, ?_⟩
    rw [hserved, serve_atRest]
    unfold Request.make Request.event?
    simp only [if_neg (Int32.not_lt.2 hid)]
    rfl

/-- A restart, releases of numbers of all sorts, and a kind that is used up. -/
def someRequests : List Request :=
  [.alloc .linear, .init, .alloc .linear, .alloc .linear, .free .twoD (-7), .free .twoD 99, .free .twoD 99,
    .free .linear 0, .free .linear 1] ++ List.replicate 9 (.alloc .fifo)

theorem default_serves_as_unshared :
    Platform.ChannelConfig.default.accept = .ok Layout.default ∧
      (run someRequests (boot Layout.default)).1 =
        [some 1, none, some 1, some 2, none, none, none, none, none, some 40, some 41, some 42, some 43, some 44,
          some 45, some 46, some 47, some (-1)].map .ok ∧
      ((alone someRequests (Channels.new Layout.default)).2.alloc .fifo).1 = none ∧
      (serve (.alloc .fifo) (run someRequests (boot Layout.default)).2).1 = .ok (some (-1)) ∧
      (serve (.alloc .linear) (run someRequests (boot Layout.default)).2).1 = .ok (some 1) := by
  have haccept : Platform.ChannelConfig.default.accept = .ok Layout.default := rfl
  obtain ⟨-, hserved, -, halloc, -⟩ := driver_serves_as_unshared haccept someRequests
  have hfifo : ((alone someRequests (Channels.new Layout.default)).2.alloc .fifo).1 = none := by decide
  have hlinear : ((alone someRequests (Channels.new Layout.default)).2.alloc .linear).1 = some 1 := by decide
  obtain ⟨m, hm, hnone, -⟩ := halloc .fifo
  obtain ⟨n, hn, -, hgiven⟩ := halloc .linear
  obtain ⟨-, -, hint⟩ := hgiven 1 hlinear
  have hn1 : n = 1 := Int32.toInt_inj.1 hint
  refine ⟨haccept, ?_, hfifo, ?_, ?_⟩
  · rw [hserved]
    decide
  · rw [hm, hnone.2 hfifo]
  · rw [hn, hn1]

end Driver

end Sallyport.Dma
