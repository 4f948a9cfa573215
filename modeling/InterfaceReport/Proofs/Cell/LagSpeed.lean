import InterfaceReport.Proofs.Cell.Outage

/-! The sums of member speeds. The speeds of the LAGs are computed unless the members of one of them,
all read, add up to more than a speed can hold: that LAG then stops the computation for all. -/

namespace InterfaceReport

open Steps

/-! ### One LAG -/

namespace LagSpeed

/-- The speeds of the members together. -/
def sum : List Contribution → Nat
  | [] => 0
  | m :: rest => m.amount + sum rest

theorem amount_lt_bound (m : Contribution) : m.amount < Speed.bound := by
  unfold Contribution.amount
  cases h : m.raw.bind Speed.ofText? with
  | none => decide
  | some speed =>
    obtain ⟨raw, -, hraw⟩ := Option.bind_eq_some_iff.1 h
    exact Text.Decimal.ofText?_lt hraw

/-- Adding up in order comes to the sum unless the sum is out of bounds: what has been added stays
below the sum, so no other step can leave the bounds. -/
theorem foldlM_add? (members : List Contribution) {start : Nat} (hstart : start < Speed.bound) :
    members.foldlM (fun sum m => add? sum m.amount) start =
      if start + sum members < Speed.bound then some (start + sum members) else none := by
  induction members generalizing start with
  | nil => simp [sum, hstart]
  | cons m rest ih =>
    have hsum : sum (m :: rest) = m.amount + sum rest := by simp [sum]
    rw [List.foldlM_cons, hsum, ← Nat.add_assoc]
    by_cases h : start + m.amount < Speed.bound
    · rw [add?, if_pos h]
      exact ih h
    · rw [add?, if_neg h, if_neg (by omega)]
      rfl

theorem total?_eq (members : List Contribution) :
    total? members = if sum members < Speed.bound then some (sum members) else none := by
  have h := foldlM_add? members (show 0 < Speed.bound by decide)
  rwa [Nat.zero_add] at h

/-- The speed of a LAG fails to be computed only where the sum is out of bounds. -/
theorem ofMembers_eq_error_iff {members : List Contribution} {fault : LagSpeedFault} :
    ofMembers members = .error fault ↔ fault = .overflow ∧ Speed.bound ≤ sum members := by
  match members with
  | [] =>
    have : ¬ Speed.bound ≤ sum [] := by decide
    simp [ofMembers, this]
  | [m] =>
    have : ¬ Speed.bound ≤ sum [m] := by simpa [sum] using amount_lt_bound m
    simp [ofMembers, this]
  | m :: n :: rest =>
    simp only [ofMembers, total?_eq]
    by_cases h : sum (m :: n :: rest) < Speed.bound
    · simp [h]
    · simp [h, Nat.not_lt.1 h, eq_comm]

end LagSpeed

/-! ### All LAGs -/

namespace LagSpeeds

variable {stores : Stores} {catalog : Catalog} {copperPorts : List String}

/-- The speeds of each LAG's members, where they can be read, add up to a speed. -/
def Fit (stores : Stores) (catalog : Catalog) (copperPorts : List String) : Prop :=
  ∀ lag ∈ catalog.lagNames, ∀ members,
    (catalog.members lag).mapM (readMember stores copperPorts) = .ok members →
      LagSpeed.sum members < Speed.bound

/-- What stops the reading of a member is a database. -/
theorem readMember_ne_overflow (port : String) :
    readMember stores copperPorts port ≠ .error .overflow := by
  intro h
  obtain ⟨e, -, he⟩ := mapError_eq_error_iff.1 h
  cases he

theorem speedOf_eq_overflow_iff {lag : String} :
    speedOf stores catalog copperPorts lag = .error .overflow ↔
      ∃ members, (catalog.members lag).mapM (readMember stores copperPorts) = .ok members ∧
        Speed.bound ≤ LagSpeed.sum members := by
  simp only [speedOf, bind_eq_error_iff, LagSpeed.ofMembers_eq_error_iff, true_and,
    or_iff_right_iff_imp]
  intro h
  obtain ⟨_, port, _, -, -, hport⟩ := mapM_eq_error_iff.1 h
  exact absurd hport (readMember_ne_overflow port)

theorem exists_readMember (happl : stores.appl.accept .hget = .ok ())
    (hstate : stores.state.accept .hget = .ok ()) (port : String) :
    ∃ m, readMember stores copperPorts port = .ok m := by
  have hlookups : ∀ l ∈ Rule.speedLookups, ∀ db, stores.database? l.database = some db →
      db.accept .hget = .ok () := by
    intro l hl db hdb
    simp only [Rule.speedLookups, List.mem_cons, List.not_mem_nil, or_false] at hl
    rcases hl with rfl | rfl <;> cases hdb
    · exact hstate
    · exact happl
  obtain ⟨raw, hraw⟩ := stores.exists_firstValueFrom happl hlookups port none
  obtain ⟨type, htype⟩ := stores.exists_optics happl hstate copperPorts port
  refine ⟨⟨raw, type⟩, ?_⟩
  have hspeed : stores.speedText? port = .ok raw := hraw
  simp [readMember, hspeed, htype]

/-- Whether a member can be read depends on the databases and not on the member. -/
theorem exists_readMember_iff (port : String) :
    (∃ m, readMember stores copperPorts port = .ok m) ↔
      stores.appl.accept .hget = .ok () ∧ stores.state.accept .hget = .ok () := by
  constructor
  · rintro ⟨m, hm⟩
    obtain ⟨raw, hraw, hm⟩ := bind_eq_ok_iff.1 (mapError_eq_ok_iff.1 hm)
    obtain ⟨optics, hoptics, -⟩ := bind_eq_ok_iff.1 hm
    obtain ⟨known, hmeets, -⟩ := bind_eq_ok_iff.1 hraw
    obtain ⟨up, hup, -⟩ := bind_eq_ok_iff.1 hmeets
    obtain ⟨status, hstatus, -⟩ := bind_eq_ok_iff.1 hup
    obtain ⟨type, htype, -⟩ := bind_eq_ok_iff.1 hoptics
    exact ⟨Database.accept_of_field hstatus, Database.accept_of_field htype⟩
  · rintro ⟨happl, hstate⟩
    exact exists_readMember happl hstate port

/-- Where one LAG overflows, all of its members have been read, so every member of every LAG can be
read and no other failure gets ahead of it. -/
theorem compute_eq_overflow_iff :
    compute stores catalog copperPorts = .error .overflow ↔ ¬ Fit stores catalog copperPorts := by
  constructor
  · intro h hfit
    obtain ⟨before, lag, after, hnames, -, hlag⟩ := mapM_eq_error_iff.1 h
    rcases bind_eq_error_iff.1 hlag with hlag | ⟨_, -, hpure⟩
    · obtain ⟨members, hmembers, hsum⟩ := speedOf_eq_overflow_iff.1 hlag
      exact absurd (hfit lag (by simp [hnames]) members hmembers) (Nat.not_lt.2 hsum)
    · cases hpure
  · intro h
    simp only [Fit, not_forall, Nat.not_lt] at h
    obtain ⟨lag, hlag, members, hmembers, hsum⟩ := h
    have hreads : ∀ port, ∃ m, readMember stores copperPorts port = .ok m := by
      cases hports : catalog.members lag with
      | nil =>
        rw [hports] at hmembers
        cases hmembers
        exact absurd hsum (by decide)
      | cons port rest =>
        obtain ⟨happl, hstate⟩ := (exists_readMember_iff port).1
          (ok_of_mapM_eq_ok hmembers (by simp [hports]))
        exact exists_readMember happl hstate
    refine mapM_eq_error_of_mem (fun lag' _ e he => ?_) hlag ?_
    · rcases bind_eq_error_iff.1 he with he | ⟨_, -, hpure⟩
      · rcases bind_eq_error_iff.1 he with he | ⟨_, -, he⟩
        · obtain ⟨_, hok⟩ := exists_mapM_eq_ok fun port (_ : port ∈ catalog.members lag') =>
            hreads port
          rw [hok] at he
          cases he
        · exact (LagSpeed.ofMembers_eq_error_iff.1 he).1
      · cases hpure
    · rw [speedOf_eq_overflow_iff.2 ⟨members, hmembers, hsum⟩]
      rfl

/-! ### Databases that refuse commands -/

/-- A fault that is due to the commands that a database refuses. -/
def Blames (stores : Stores) : LagSpeedFault → Prop
  | .store e => stores.Blames e
  | .overflow => False

theorem agrees_readMember (stores : Stores) (copperPorts : List String) (port : String) :
    AgreesUnless (Blames stores) (readMember stores copperPorts port)
      (readMember stores.restored copperPorts port) := by
  refine AgreesUnless.mapError ?_ fun e he => he
  exact (stores.agrees_firstValue port Rule.speedLookups).bind fun _ =>
    (stores.agrees_optics copperPorts port).bind fun _ => .agrees _

theorem agrees_compute (stores : Stores) (catalog : Catalog) (copperPorts : List String)
    (hfit : Fit stores.restored catalog copperPorts) :
    AgreesUnless (Blames stores) (compute stores catalog copperPorts)
      (compute stores.restored catalog copperPorts) := by
  refine AgreesUnless.mapM _ fun lag hlag => AgreesUnless.bind ?_ fun _ => .agrees _
  refine AgreesUnless.bind_of_ok
    (AgreesUnless.mapM _ fun port _ => agrees_readMember stores copperPorts port) ?_
  intro members hmembers
  have hsum : LagSpeed.sum members < Speed.bound := hfit lag hlag members hmembers
  cases h : LagSpeed.ofMembers members with
  | ok shown => exact .agrees shown
  | error fault => exact absurd (LagSpeed.ofMembers_eq_error_iff.1 h).2 (Nat.not_le.2 hsum)

end LagSpeeds

end InterfaceReport
