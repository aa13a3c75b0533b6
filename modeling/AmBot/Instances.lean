import AmBot.Session
import AmBot.RunLib.Tasks
/-!
# Bots side by side

Any number of bots started on one machine: `main.c`, `ambot_rexx_open` and
`ambot_rexx_close`, `ambot_net_open` and `ambot_net_close`, one call at a time
and in any interleaving. `Forbid` keeps the other tasks from running until
`Permit`. What a session does between the opening and the closing is one move
here; what is done with the messages at the port is in `AmBot.RexxPort`.
-/

namespace AmBot

open RunLib

/-! ## The program's arguments -/

/-- `ambot_run` up to the session: what it starts the session with, or none
where it refuses its arguments. -/
def ambotRun (argv : List Bytes) : Option SessionConfig :=
  if argv.length < 4 ∨ 8 < argv.length then none
  else
    (portOf (argv.getD 2 [])).map fun port =>
      { host := argv.getD 1 []
        port
        nick := argv.getD 3 []
        user := if 5 ≤ argv.length then argv.getD 4 [] else argv.getD 3 []
        pass := if 6 ≤ argv.length then argv.getD 5 [] else []
        ownerNick := if 7 ≤ argv.length then argv.getD 6 [] else []
        configPath := if 8 ≤ argv.length then argv.getD 7 [] else [] }

/-! ## One bot -/

/-- The next call of a bot. The opening and the closing of the port end in the
same two calls, with the code the program is going to return. -/
inductive BotPc where
  /-- `ambot_run` with its arguments. -/
  | start (argv : List Bytes)
  /-- The configuration is put together. -/
  | load
  | openRexx
  | createPort
  | forbid
  | findPort
  | addPort
  | permit (added : Bool)
  | openNet
  | running
  | closeNet (rc : Nat)
  | forbidAgain (rc : Nat)
  | remPort (rc : Nat)
  | permitAgain (rc : Nat)
  | deletePort (rc : Nat)
  | closeRexx (rc : Nat)
  | done (rc : Nat)
  deriving DecidableEq, Repr

/-- What the bots share: the task that has called `Forbid`, the public ports
named `AMBOT` by the bot that added them, and how often each library is open
and how many message ports there are. -/
@[ext]
structure Exec where
  forbidding : Option Nat
  ports : List Nat
  rexxOpens : Nat
  msgPorts : Nat
  socketOpens : Nat
  deriving DecidableEq, Repr

def execInit : Exec := { forbidding := none, ports := [], rexxOpens := 0, msgPorts := 0, socketOpens := 0 }

/-- The next call of bot `i`. `answer` is zero where the call succeeds; for a
session it is the code it returns. -/
def botCall (i answer : Nat) (m : Exec) : BotPc → Option (BotPc × Exec)
  | .start argv => some (if (ambotRun argv).isSome then .load else .done 10, m)
  | .load => some (if answer = 0 then .openRexx else .done 10, m)
  | .openRexx => some (if answer = 0 then (.createPort, { m with rexxOpens := m.rexxOpens + 1 }) else (.done 20, m))
  | .createPort => some (if answer = 0 then (.forbid, { m with msgPorts := m.msgPorts + 1 }) else (.closeRexx 20, m))
  | .forbid => some (.findPort, { m with forbidding := some i })
  | .findPort => some (if m.ports = [] then .addPort else .permit false, m)
  | .addPort => some (.permit true, { m with ports := m.ports ++ [i] })
  | .permit added => some (if added then .openNet else .deletePort 20, { m with forbidding := none })
  | .openNet => some (if answer = 0 then (.running, { m with socketOpens := m.socketOpens + 1 }) else (.forbidAgain 20, m))
  | .running => some (.closeNet answer, m)
  | .closeNet rc => some (.forbidAgain rc, { m with socketOpens := m.socketOpens - 1 })
  | .forbidAgain rc => some (.remPort rc, { m with forbidding := some i })
  | .remPort rc => some (.permitAgain rc, { m with ports := m.ports.erase i })
  | .permitAgain rc => some (.deletePort rc, { m with forbidding := none })
  | .deletePort rc => some (.closeRexx rc, { m with msgPorts := m.msgPorts - 1 })
  | .closeRexx rc => some (.done rc, { m with rexxOpens := m.rexxOpens - 1 })
  | .done _ => none

/-- A bot moves where no other task has called `Forbid`. -/
def botMove (i answer : Nat) (pc : BotPc) (m : Exec) : Option (BotPc × Exec) :=
  if m.forbidding = none ∨ m.forbidding = some i then botCall i answer m pc else none

abbrev Bots : Type := Tasks BotPc Exec

abbrev botsStep : Bots → Nat × Nat → Option Bots := Tasks.step botMove

/-- The bots that are started, each with its arguments. -/
def botsStarted (argvs : List (List Bytes)) : Bots := { tasks := argvs.map .start, shared := execInit }

/-! ## What a bot has -/

def BotPc.hasRexx : BotPc → Nat
  | .start _ | .load | .openRexx | .done _ => 0
  | _ => 1

def BotPc.hasPort : BotPc → Nat
  | .start _ | .load | .openRexx | .createPort | .closeRexx _ | .done _ => 0
  | _ => 1

def BotPc.isPublic : BotPc → Bool
  | .permit added => added
  | .openNet | .running | .closeNet _ | .forbidAgain _ | .remPort _ => true
  | _ => false

def BotPc.hasNet : BotPc → Nat
  | .running | .closeNet _ => 1
  | _ => 0

/-- Between `Forbid` and `Permit`. -/
def BotPc.inForbid : BotPc → Bool
  | .findPort | .addPort | .permit _ | .remPort _ | .permitAgain _ => true
  | _ => false

structure BotsInv (s : Bots) : Prop where
  lock : Guards BotPc.inForbid Exec.forbidding s
  single : s.shared.ports.length ≤ 1
  owner : Guards BotPc.isPublic (·.ports.head?) s
  adding : ∀ i : Nat, s.tasks[i]? = some BotPc.addPort → s.shared.ports = []
  rexx : Counts BotPc.hasRexx Exec.rexxOpens s
  port : Counts BotPc.hasPort Exec.msgPorts s
  net : Counts BotPc.hasNet Exec.socketOpens s

variable {s s' : Bots} {i j answer rc : Nat} {pc pc' : BotPc} {m' : Exec}

theorem botsInv_started (argvs : List (List Bytes)) : BotsInv (botsStarted argvs) := by
  have hstart : ∀ pc ∈ (botsStarted argvs).tasks, ∃ argv, pc = .start argv := by
    intro pc hpc
    obtain ⟨argv, -, rfl⟩ := List.mem_map.1 hpc
    exact ⟨argv, rfl⟩
  have hcount {has : BotPc → Nat} (hhas : ∀ argv, has (.start argv) = 0) :
      0 = ((botsStarted argvs).tasks.map has).sum := by
    symm
    rw [List.sum_eq_zero_iff_forall_eq_nat]
    intro n hn
    obtain ⟨pc, hpc, rfl⟩ := List.mem_map.1 hn
    obtain ⟨argv, rfl⟩ := hstart pc hpc
    exact hhas argv
  have hguard {inside : BotPc → Bool} (hinside : ∀ argv, inside (.start argv) = false) (j : Nat) :
      ¬ ∃ pc, (botsStarted argvs).tasks[j]? = some pc ∧ inside pc = true := by
    rintro ⟨pc, hpc, hin⟩
    obtain ⟨argv, rfl⟩ := hstart pc (List.mem_of_getElem? hpc)
    simp [hinside] at hin
  exact {
    lock := fun j => iff_of_false nofun (hguard (fun _ => rfl) j)
    single := Nat.zero_le 1
    owner := fun j => iff_of_false nofun (hguard (fun _ => rfl) j)
    adding := fun _ _ => rfl
    rexx := hcount fun _ => rfl
    port := hcount fun _ => rfl
    net := hcount fun _ => rfl }

/-! ## What a call keeps -/

section Call
variable (h : BotsInv s) (hp : s.tasks[i]? = some pc) (hfree : s.shared.forbidding = none ∨ s.shared.forbidding = some i)
  (hcall : botCall i answer s.shared pc = some (pc', m'))
include h hp hfree hcall

theorem BotsInv.lock_step : Guards BotPc.inForbid Exec.forbidding (s.moved i pc' m') := by
  cases pc with
  | forbid | forbidAgain =>
    cases hcall
    exact h.lock.step hp hfree rfl
  | permit added =>
    cases hcall
    cases added
    · exact h.lock.step hp hfree rfl
    · exact h.lock.step hp hfree rfl
  | permitAgain =>
    cases hcall
    exact h.lock.step hp hfree rfl
  | start | load | openRexx | createPort | findPort | openNet =>
    simp only [botCall, Option.some.injEq] at hcall
    split at hcall <;> cases hcall <;> exact h.lock.keep hp rfl rfl
  | done => cases hcall
  | _ =>
    cases hcall
    exact h.lock.keep hp rfl rfl

omit hfree in
/-- The libraries and the message ports: each bot gives back what it took. -/
theorem BotsInv.counts_step : Counts BotPc.hasRexx Exec.rexxOpens (s.moved i pc' m') ∧
    Counts BotPc.hasPort Exec.msgPorts (s.moved i pc' m') ∧ Counts BotPc.hasNet Exec.socketOpens (s.moved i pc' m') := by
  have hrexx := h.rexx.le hp
  have hport := h.port.le hp
  have hnet := h.net.le hp
  suffices hsums : m'.rexxOpens + pc.hasRexx = s.shared.rexxOpens + pc'.hasRexx ∧
      m'.msgPorts + pc.hasPort = s.shared.msgPorts + pc'.hasPort ∧
      m'.socketOpens + pc.hasNet = s.shared.socketOpens + pc'.hasNet from
    ⟨h.rexx.step hp hsums.1, h.port.step hp hsums.2.1, h.net.step hp hsums.2.2⟩
  cases pc with
  | start | load | openRexx | createPort | findPort | openNet =>
    simp only [botCall, Option.some.injEq] at hcall
    split at hcall <;> cases hcall <;> exact ⟨rfl, rfl, rfl⟩
  | permit added =>
    cases hcall
    cases added <;> exact ⟨rfl, rfl, rfl⟩
  | closeNet rc =>
    cases hcall
    exact ⟨rfl, rfl, Nat.sub_add_cancel hnet⟩
  | deletePort rc =>
    cases hcall
    exact ⟨rfl, Nat.sub_add_cancel hport, rfl⟩
  | closeRexx rc =>
    cases hcall
    exact ⟨Nat.sub_add_cancel hrexx, rfl, rfl⟩
  | done => cases hcall
  | _ =>
    cases hcall
    exact ⟨rfl, rfl, rfl⟩

omit h hp hfree in
/-- What a call does to the public ports. -/
theorem botCall_ports : (m'.ports = s.shared.ports ∧ pc'.isPublic = pc.isPublic ∧ (pc' = .addPort → s.shared.ports = [])) ∨
    (pc = .addPort ∧ m'.ports = s.shared.ports ++ [i] ∧ pc' = .permit true) ∨
    (pc.isPublic = true ∧ m'.ports = s.shared.ports.erase i ∧ pc'.isPublic = false ∧ pc' ≠ .addPort) := by
  cases pc with
  | addPort =>
    cases hcall
    exact .inr (.inl ⟨rfl, rfl, rfl⟩)
  | remPort rc =>
    cases hcall
    exact .inr (.inr ⟨rfl, rfl, rfl, nofun⟩)
  | findPort =>
    simp only [botCall, Option.some.injEq] at hcall
    split at hcall
    · rename_i hnone
      cases hcall
      exact .inl ⟨rfl, rfl, fun _ => hnone⟩
    · cases hcall
      exact .inl ⟨rfl, rfl, nofun⟩
  | permit added =>
    cases hcall
    cases added <;> exact .inl ⟨rfl, rfl, nofun⟩
  | start | load | openRexx | createPort | openNet =>
    simp only [botCall, Option.some.injEq] at hcall
    split at hcall <;> cases hcall <;> exact .inl ⟨rfl, rfl, nofun⟩
  | done => cases hcall
  | _ =>
    cases hcall
    exact .inl ⟨rfl, rfl, nofun⟩

omit hfree in
/-- The one public port. -/
theorem BotsInv.ports_step : m'.ports.length ≤ 1 ∧ Guards BotPc.isPublic (·.ports.head?) (s.moved i pc' m') := by
  rcases botCall_ports hcall with ⟨hsame, hpublic, -⟩ | ⟨rfl, hadded, rfl⟩ | ⟨hmine, hremoved, hgone, -⟩
  · refine ⟨hsame ▸ h.single, h.owner.keep hp ?_ hpublic⟩
    rw [hsame]
  · have hnone := h.adding i hp
    rw [hnone, List.nil_append] at hadded
    refine ⟨hadded ▸ le_rfl, h.owner.step hp (.inl ?_) ?_⟩
    · rw [hnone]
      rfl
    · rw [hadded]
      rfl
  · have hhead : s.shared.ports.head? = some i := (h.owner.at hp).2 hmine
    obtain ⟨rest, hports⟩ : ∃ rest, s.shared.ports = i :: rest := by
      cases hlist : s.shared.ports with
      | nil =>
        rw [hlist] at hhead
        cases hhead
      | cons first rest =>
        rw [hlist] at hhead
        cases hhead
        exact ⟨rest, rfl⟩
    have hrest : rest = [] := by
      have hlength := h.single
      rw [hports, List.length_cons] at hlength
      exact List.eq_nil_of_length_eq_zero (by omega)
    rw [hports, List.erase_cons_head, hrest] at hremoved
    refine ⟨hremoved ▸ Nat.zero_le 1, h.owner.step hp (.inr hhead) ?_⟩
    rw [hremoved, hgone]
    rfl

/-- Between `FindPort` and `AddPort` no port is added: the other bots do not
run. -/
theorem BotsInv.adding_step (j : Nat) (hj : (s.moved i pc' m').tasks[j]? = some BotPc.addPort) : m'.ports = [] := by
  rw [Tasks.moved_at hp] at hj
  by_cases hij : i = j
  · rw [if_pos hij, Option.some.injEq] at hj
    rcases botCall_ports hcall with ⟨hsame, -, hadding⟩ | ⟨-, -, rfl⟩ | ⟨-, -, -, hnot⟩
    · rw [hsame]
      exact hadding hj
    · cases hj
    · exact absurd hj hnot
  · rw [if_neg hij] at hj
    -- the bot at `AddPort` has called `Forbid`, so this is not another one
    have hforbids : s.shared.forbidding = some j := (h.lock.at hj).2 rfl
    rcases hfree with hnone | hmine
    · rw [hnone] at hforbids
      cases hforbids
    · rw [hmine] at hforbids
      exact absurd (Option.some.inj hforbids) hij

theorem BotsInv.call : BotsInv (s.moved i pc' m') where
  lock := h.lock_step hp hfree hcall
  single := (h.ports_step hp hcall).1
  owner := (h.ports_step hp hcall).2
  adding := h.adding_step hp hfree hcall
  rexx := (h.counts_step hp hcall).1
  port := (h.counts_step hp hcall).2.1
  net := (h.counts_step hp hcall).2.2

end Call

theorem botsStep_inv {action : Nat × Nat} (hstep : botsStep s action = some s') (h : BotsInv s) : BotsInv s' := by
  obtain ⟨pc, pc', m', hp, hmove, rfl⟩ := Tasks.step_cases hstep
  obtain ⟨hfree, hcall⟩ := Option.ite_none_right_eq_some.1 hmove
  exact h.call hp hfree hcall

theorem bots_inv {argvs : List (List Bytes)} {actions : List (Nat × Nat)}
    (h : Run botsStep (botsStarted argvs) actions s) : BotsInv s :=
  h.inv (fun _ _ _ => botsStep_inv) (botsInv_started argvs)

/-! ## Any number of bots -/

/-- However many bots are started and however they are interleaved, at most one
public `AMBOT` port exists, and a bot that has the socket library open, as
every bot with a session has, is the one whose port it is. -/
theorem bots_exclude {argvs : List (List Bytes)} {actions : List (Nat × Nat)}
    (h : Run botsStep (botsStarted argvs) actions s) :
    s.shared.ports.length ≤ 1 ∧
    (∀ (i j : Nat) (pc pc' : BotPc), s.tasks[i]? = some pc → s.tasks[j]? = some pc' → pc.isPublic = true →
      pc'.isPublic = true → i = j) ∧
    ∀ (i : Nat) (pc : BotPc), s.tasks[i]? = some pc → pc.hasNet = 1 → s.shared.ports = [i] := by
  have hinv := bots_inv h
  have hnetPublic : ∀ pc : BotPc, pc.hasNet = 1 → pc.isPublic = true := by
    intro pc hnet
    cases pc <;> first | rfl | cases hnet
  refine ⟨hinv.single, ?_, ?_⟩
  · intro i j pc pc' hp hp' hpublic hpublic'
    exact hinv.owner.unique hp hpublic hp' hpublic'
  · intro i pc hp hnet
    have hhead : s.shared.ports.head? = some i := (hinv.owner.at hp).2 (hnetPublic pc hnet)
    have hsingle := hinv.single
    cases hports : s.shared.ports with
    | nil =>
      rw [hports] at hhead
      cases hhead
    | cons first rest =>
      rw [hports] at hhead hsingle
      cases hhead
      have hrest : rest = [] := List.eq_nil_of_length_eq_zero (by simpa using hsingle)
      rw [hrest]

/-- The arguments of a bot that finds nothing to complain about. -/
def ircArgs : List Bytes := [ascii "AmBot", ascii "irc", ascii "6667", ascii "bot"]

/-- One bot gets to its session, and a second one to the port that is taken. -/
def secondBot : List (Nat × Nat) := List.replicate 9 (0, 0) ++ List.replicate 6 (1, 0)

theorem bots_exclude_second : ∃ s : Bots, Run botsStep (botsStarted [ircArgs, ircArgs]) secondBot s ∧
    s.tasks = [.running, .permit false] ∧ s.shared.ports = [0] := by
  have hruns : (runAll botsStep (botsStarted [ircArgs, ircArgs]) secondBot).any
      (fun s => s.tasks = [.running, .permit false]) = true := by
    decide +kernel
  obtain ⟨hs, htasks⟩ := (Option.any_eq_true_iff_get _ _).1 hruns
  have hrun := run_iff.2 (Option.some_get hs).symm
  have htasks := of_decide_eq_true htasks
  exact ⟨_, hrun, htasks, (bots_exclude hrun).2.2 0 .running (by rw [htasks]; rfl) rfl⟩

/-- The most calls a bot still makes. -/
def BotPc.left : BotPc → Nat
  | .start _ => 16
  | .load => 15
  | .openRexx => 14
  | .createPort => 13
  | .forbid => 12
  | .findPort => 11
  | .addPort => 10
  | .permit _ => 9
  | .openNet => 8
  | .running => 7
  | .closeNet _ => 6
  | .forbidAgain _ => 5
  | .remPort _ => 4
  | .permitAgain _ => 3
  | .deletePort _ => 2
  | .closeRexx _ => 1
  | .done _ => 0

theorem botCall_left (hcall : botCall i answer s.shared pc = some (pc', m')) : pc'.left < pc.left := by
  cases pc with
  | start | load | openRexx | createPort | findPort | openNet =>
    simp only [botCall, Option.some.injEq] at hcall
    split at hcall <;> cases hcall <;> simp [BotPc.left]
  | permit added =>
    cases hcall
    cases added <;> simp [BotPc.left]
  | done => cases hcall
  | _ =>
    cases hcall
    simp [BotPc.left]

def callsLeft (s : Bots) : Nat := (s.tasks.map BotPc.left).sum

theorem callsLeft_started (argvs : List (List Bytes)) : callsLeft (botsStarted argvs) = 16 * argvs.length := by
  induction argvs with
  | nil => rfl
  | cons argv argvs ih =>
    change 16 + callsLeft (botsStarted argvs) = 16 * (argvs.length + 1)
    omega

theorem botsStep_left {action : Nat × Nat} (hstep : botsStep s action = some s') : callsLeft s' + 1 ≤ callsLeft s := by
  obtain ⟨pc, pc', m', hp, hmove, rfl⟩ := Tasks.step_cases hstep
  obtain ⟨-, hcall⟩ := Option.ite_none_right_eq_some.1 hmove
  have hleft := botCall_left hcall
  have hsum := sum_set BotPc.left pc' hp
  change ((s.tasks.set action.1 pc').map BotPc.left).sum + 1 ≤ (s.tasks.map BotPc.left).sum
  omega

theorem run_left {actions : List (Nat × Nat)} (h : Run botsStep s actions s') :
    callsLeft s' + actions.length ≤ callsLeft s := by
  induction h with
  | nil => exact le_rfl
  | cons hstep _ ih =>
    have hone := botsStep_left hstep
    rw [List.length_cons]
    omega

/-- A bot that has not ended can be moved, or the one that has called `Forbid`
can. -/
theorem BotsInv.goes_on (hinv : BotsInv s) (hpc : pc ∈ s.tasks) (hends : ∀ rc, pc ≠ .done rc) :
    ∃ action, (botsStep s action).isSome = true := by
  have hcalls : ∀ (i answer : Nat) (pc : BotPc), (∀ rc, pc ≠ .done rc) → (botCall i answer s.shared pc).isSome = true := by
    intro i answer pc hends
    cases pc with
    | done rc => exact absurd rfl (hends rc)
    | _ => rfl
  cases hforbids : s.shared.forbidding with
  | none =>
    obtain ⟨i, hi⟩ := List.getElem?_of_mem hpc
    refine ⟨(i, 0), Tasks.step_isSome hi ?_⟩
    rw [botMove, if_pos (.inl hforbids)]
    exact hcalls i 0 pc hends
  | some i =>
    obtain ⟨pc', hi, hin⟩ := (hinv.lock i).1 hforbids
    refine ⟨(i, 0), Tasks.step_isSome hi ?_⟩
    rw [botMove, if_pos (.inr hforbids)]
    refine hcalls i 0 pc' ?_
    rintro rc rfl
    cases hin

/-- No interleaving goes on for ever, none gets stuck before every bot has
returned from `main`, and then both libraries are closed as often as they were
opened, no message port is left, and the other tasks may run. -/
theorem bots_release {argvs : List (List Bytes)} {actions : List (Nat × Nat)}
    (h : Run botsStep (botsStarted argvs) actions s) :
    actions.length ≤ 16 * argvs.length ∧
    ((∀ action, botsStep s action = none) → (∀ pc ∈ s.tasks, ∃ rc, pc = .done rc) ∧ s.shared = execInit) := by
  have hinv := bots_inv h
  constructor
  · have hleft := run_left h
    rw [callsLeft_started] at hleft
    omega
  · intro hstuck
    have hdone : ∀ pc ∈ s.tasks, ∃ rc, pc = .done rc := by
      intro pc hpc
      by_contra hends
      obtain ⟨action, hgoes⟩ := hinv.goes_on hpc fun rc heq => hends ⟨rc, heq⟩
      rw [hstuck action] at hgoes
      cases hgoes
    have hnone {β : Type} {has : BotPc → β} {none : β} (hhas : ∀ rc, has (.done rc) = none) :
        ∀ pc ∈ s.tasks, has pc = none := by
      intro pc hpc
      obtain ⟨rc, rfl⟩ := hdone pc hpc
      exact hhas rc
    refine ⟨hdone, ?_⟩
    have hrexx := hinv.rexx.none (hnone fun _ => rfl)
    have hport := hinv.port.none (hnone fun _ => rfl)
    have hnet := hinv.net.none (hnone fun _ => rfl)
    have hforbid := hinv.lock.none (hnone fun _ => rfl)
    have hports := List.head?_eq_none_iff.1 (hinv.owner.none (hnone fun _ => rfl))
    exact Exec.ext hforbid hports hrexx hport hnet

/-- The second bot gives up, and the first one ends its session. -/
theorem bots_release_second : ∃ s : Bots,
    Run botsStep (botsStarted [ircArgs, ircArgs]) (secondBot ++ List.replicate 3 (1, 0) ++ List.replicate 7 (0, 0)) s ∧
    s.tasks = [.done 0, .done 20] ∧ s.shared = execInit := by
  have hruns : (runAll botsStep (botsStarted [ircArgs, ircArgs])
      (secondBot ++ List.replicate 3 (1, 0) ++ List.replicate 7 (0, 0))).any
      (fun s => s.tasks = [.done 0, .done 20]) = true := by
    decide +kernel
  obtain ⟨hs, htasks⟩ := (Option.any_eq_true_iff_get _ _).1 hruns
  have hrun := run_iff.2 (Option.some_get hs).symm
  have htasks := of_decide_eq_true htasks
  refine ⟨_, hrun, htasks, ((bots_release hrun).2 ?_).2⟩
  rintro ⟨i, answer⟩
  refine Option.bind_eq_none_iff.2 fun pc hpc => ?_
  have hdone : ∃ rc, pc = .done rc := by
    have hmem := List.mem_of_getElem? hpc
    rw [htasks] at hmem
    rcases List.mem_cons.1 hmem with rfl | hmem
    · exact ⟨0, rfl⟩
    · exact ⟨20, List.mem_singleton.1 hmem⟩
  obtain ⟨rc, rfl⟩ := hdone
  simp [botMove, botCall]

end AmBot
