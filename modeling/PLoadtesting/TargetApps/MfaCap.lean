import PLoadtesting.TargetApps.AuthCredentials

/-!
The cap on active MFA challenges.

`_issue_mfa_challenge` compares the cap with the number of all stored challenges.
A completed challenge is marked as used and stays in the dictionary, so its place
is not freed: the cap counts active challenges only as long as none has been
completed, and once it is reached no challenge is ever started again
(`full_refuses`).
-/

namespace PLoadtesting.TargetApps.AuthFlow

open Keyed Python

/-- The number of challenges that were started and not completed. -/
def Store.activeChallenges (s : Store) : Nat := s.mfaChallenges.rows.countP fun row => !row.2.used

/-- The store has as many challenges as the cap allows. -/
def Store.Full (s : Store) : Prop := maxActiveMfaChallenges ≤ s.mfaChallenges.rows.length

section Cap

variable [Hashlib]

/-- A start with the valid password succeeds while fewer challenges than the cap are
active. -/
def CapCountsActive (s : Store) : Prop :=
  s.activeChallenges < maxActiveMfaChallenges → ∀ body : MfaStartRequest, body.valid = true →
    body.password = validPassword → (Request.handle (.mfaLoginStart body) s).1.statusCode = 200

/-- A start with the valid password succeeds exactly if the store is not full. -/
theorem start_succeeds_iff {s : Store} {body : MfaStartRequest} (valid : body.valid = true)
    (password : body.password = validPassword) :
    (Request.handle (.mfaLoginStart body) s).1.statusCode = 200 ↔ ¬ s.Full := by
  have runs : Request.handle (.mfaLoginStart body) s = mfaLoginStart body s := by
    simp only [Request.handle, validated, valid, if_true]
  rw [runs]
  unfold mfaLoginStart issueMfaChallenge
  rw [if_neg (not_not.mpr password)]
  by_cases full : s.mfaChallenges.rows.length ≥ maxActiveMfaChallenges
  · rw [if_pos full]
    exact iff_of_false (by simp [Reply.statusCode]) (not_not.mpr full)
  · rw [if_neg full]
    exact iff_of_true rfl full

/-- A request never removes a challenge, and starts none in a full store. -/
theorem Outcome.challenges_length {s s' : Store} {request : Request} {reply : Reply}
    (outcome : Outcome s request reply s') :
    s.mfaChallenges.rows.length ≤ s'.mfaChallenges.rows.length ∧
      s'.mfaChallenges.rows.length ≤ max s.mfaChallenges.rows.length maxActiveMfaChallenges := by
  cases outcome with
  | challenged issued =>
      unfold issueMfaChallenge at issued
      split at issued
      · cases issued
      · rename_i room
        simp only [Prod.mk.injEq] at issued
        obtain ⟨-, rfl⟩ := issued
        have below : s.mfaChallenges.rows.length + 1 ≤ maxActiveMfaChallenges := by omega
        exact ⟨Dict.length_set_bounds.1,
          Dict.length_set_bounds.2.trans (below.trans (le_max_right _ _))⟩
  | loggedIn valid issued =>
      simp only [issueBearer, issueAccessToken, issueRefreshToken, Prod.mk.injEq] at issued
      obtain ⟨-, rfl⟩ := issued
      exact ⟨le_rfl, le_max_left _ _⟩
  | sessionStarted valid issued =>
      simp only [issueSession, Prod.mk.injEq] at issued
      obtain ⟨-, rfl⟩ := issued
      exact ⟨le_rfl, le_max_left _ _⟩
  | refreshed valid stored usable funds issued =>
      simp only [issueAccessToken, Store.setRefresh, Prod.mk.injEq] at issued
      obtain ⟨-, rfl⟩ := issued
      exact ⟨le_rfl, le_max_left _ _⟩
  | @verifiedSession body challenge sessionId _ valid stored unused code issued =>
      simp only [issueSession, Store.markUsed, Prod.mk.injEq] at issued
      obtain ⟨-, rfl⟩ := issued
      have same := Dict.length_set_of_stored (v := { challenge with used := true }) stored
      exact ⟨same.ge, same.le.trans (le_max_left _ _)⟩
  | @verifiedBearer body challenge access fresh _ valid stored unused code issued =>
      simp only [issueBearer, issueAccessToken, issueRefreshToken, Store.markUsed, Prod.mk.injEq]
        at issued
      obtain ⟨-, rfl⟩ := issued
      have same := Dict.length_set_of_stored (v := { challenge with used := true }) stored
      exact ⟨same.ge, same.le.trans (le_max_left _ _)⟩
  | _ => exact ⟨le_rfl, le_max_left _ _⟩

/-- The cap holds over every sequence of requests. -/
theorem challenges_length_le (requests : List Request) :
    (after initial requests).mfaChallenges.rows.length ≤ maxActiveMfaChallenges := by
  refine (run_exchanges initial requests).preserves
    (I := fun s => s.mfaChallenges.rows.length ≤ maxActiveMfaChallenges) ?_ (Nat.zero_le _)
  intro s x t _ moves bounded
  exact (serve_outcome moves).challenges_length.2.trans (max_le bounded le_rfl)

/-- A full store stays full: every later start is refused. -/
theorem full_refuses {s : Store} (full : s.Full) (requests : List Request) {body : MfaStartRequest}
    (valid : body.valid = true) (password : body.password = validPassword) :
    (Request.handle (.mfaLoginStart body) (after s requests)).1.statusCode ≠ 200 := by
  rw [Ne, start_succeeds_iff valid password, not_not]
  refine (run_exchanges s requests).preserves (I := Store.Full) ?_ full
  intro u x t _ moves isFull
  exact isFull.trans (serve_outcome moves).challenges_length.1

/-- The cap counts active challenges exactly while the store is not full or no
stored challenge has been completed. -/
theorem capCountsActive_iff (requests : List Request) :
    let s := after initial requests
    CapCountsActive s ↔ ¬ s.Full ∨ ∀ row ∈ s.mfaChallenges.rows, row.2.used = false := by
  intro s
  constructor
  · intro counts
    by_contra neither
    obtain ⟨full, completed⟩ := not_or.mp neither
    have active : s.activeChallenges < maxActiveMfaChallenges := by
      refine lt_of_lt_of_le ?_ (challenges_length_le requests)
      refine lt_of_le_of_ne List.countP_le_length fun all => completed ?_
      intro row mem
      simpa using List.countP_eq_length.mp all row mem
    have valid : MfaStartRequest.valid ⟨"alice", validPassword, "sms"⟩ = true := by decide
    exact (start_succeeds_iff valid rfl).mp (counts active _ valid rfl) (not_not.mp full)
  · rintro (room | unused) active body valid password
    · exact (start_succeeds_iff valid password).mpr room
    · have all : s.activeChallenges = s.mfaChallenges.rows.length :=
        List.countP_eq_length.mpr fun row mem => by simp [unused row mem]
      refine (start_succeeds_iff valid password).mpr ?_
      rw [Store.Full, ← all]
      omega

end Cap

/-- Twenty challenges for Alice, the first of which she completes. -/
def aliceChallenges : List Request :=
  List.replicate 20 (.mfaLoginStart ⟨"alice", validPassword, "sms"⟩) ++
    [.mfaLoginVerify ⟨@digestId demoDigests "demo-mfa" "alice|sms" 1, "133301", "session", 1, 1, 1⟩]

theorem aliceChallenges_refused :
    let _ := demoDigests
    ¬ ∀ requests : List Request, CapCountsActive (after initial requests) := by
  intro _ counts
  have succeeds := counts aliceChallenges (by decide +kernel) ⟨"alice", validPassword, "sms"⟩
    (by decide) rfl
  exact absurd succeeds (by decide +kernel)

end PLoadtesting.TargetApps.AuthFlow
