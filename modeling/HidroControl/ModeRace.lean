import HidroControl.Modos
import HidroControl.Base.Interleaving

/-!
# The race on `s_modo`

The control task advances the mode when the button is pressed, the MQTT task
sets it when a command arrives, and each reads and writes `s_modo` one access at
a time. `Corrida` is the two tasks over the shared cell; a run is a schedule,
the list of the tasks in the order in which they make their accesses.

A run is *explained* by an order of whole operations that keeps each task's own
and ends in the same mode. Commands never need care: a command takes effect at
its store, or at the comparison that finds it already in effect, whatever the
other task is doing. An advance decides at its `switch` what it will store, and
a command that lands before the store is overwritten by it: with NORMAL in the
cell, an advance and a command MIX can end in DUO, which no order gives
(`race_lost`). The store is explained after all if the cell holds the mode the
advance started from, or the very mode it stores; `modeUpdatesKept` says so of
runs of any length.
-/

namespace HidroControl

open Interleaving

inductive Operacao where
  | avanco
  | comando (modo : ModoOperacao)
deriving DecidableEq

/-- A whole operation, unsplit. -/
def Operacao.executa : Operacao → ModoOperacao → ModoOperacao
  | .avanco, m => (modosNext { sModo := m }).sModo
  | .comando modo, m => (modosSet modo { sModo := m }).sModo

@[simp] theorem Operacao.executa_avanco (m : ModoOperacao) :
    Operacao.avanco.executa m = m.proximo := modosSet_sModo _ _

@[simp] theorem Operacao.executa_comando (modo m : ModoOperacao) :
    (Operacao.comando modo).executa m = modo := modosSet_sModo _ _

/-- The two tasks: where each stands in its current operation (`fim` between
operations) and what it has yet to do. -/
structure Corrida where
  sModo : ModoOperacao
  botao : PassoModo := .fim
  avancos : ℕ
  remoto : PassoModo := .fim
  comandos : List ModoOperacao
deriving DecidableEq

inductive TarefaModo where
  | controle
  | mqtt
deriving DecidableEq

/-- One step of a task: enter the next operation, or make the next access. -/
def Corrida.passo (s : Corrida) : TarefaModo → Corrida
  | .controle =>
      match s.botao, s.avancos with
      | .fim, 0 => s
      | .fim, n + 1 => { s with botao := .le, avancos := n }
      | p, _ => { s with botao := (p.passo s.sModo).1, sModo := (p.passo s.sModo).2 }
  | .mqtt =>
      match s.remoto, s.comandos with
      | .fim, [] => s
      | .fim, m :: ms => { s with remoto := .compara m, comandos := ms }
      | p, _ => { s with remoto := (p.passo s.sModo).1, sModo := (p.passo s.sModo).2 }

def Corrida.roda (s : Corrida) (agenda : List TarefaModo) : Corrida :=
  agenda.foldl Corrida.passo s

def Corrida.Terminada (s : Corrida) : Prop :=
  s.botao = .fim ∧ s.avancos = 0 ∧ s.remoto = .fim ∧ s.comandos = []

instance (s : Corrida) : Decidable s.Terminada :=
  inferInstanceAs (Decidable (_ ∧ _))

/-- `m` is what `avancos` advances and the commands `comandos` give, unsplit and
in some order. -/
def Explicada (inicial : ModoOperacao) (avancos : ℕ)
    (comandos : List ModoOperacao) (m : ModoOperacao) : Prop :=
  ∃ ordem, Merge (List.replicate avancos .avanco) (comandos.map .comando) ordem ∧
    ordem.foldl (fun m op => Operacao.executa op m) inicial = m

/-- The run from `inicial` under `agenda`, if it finishes, loses no update. -/
def UpdatesKept (inicial : ModoOperacao) (avancos : ℕ)
    (comandos : List ModoOperacao) (agenda : List TarefaModo) : Prop :=
  let s := Corrida.roda { sModo := inicial, avancos, comandos } agenda
  s.Terminada → Explicada inicial avancos comandos s.sModo

/-! ## A lost command -/

/-- The button reads NORMAL and decides on DUO; the command MIX is carried out;
the button stores DUO. -/
def raceAgenda : List TarefaModo :=
  [.controle, .controle, .mqtt, .mqtt, .mqtt, .mqtt, .controle, .controle,
    .controle]

theorem race_lost : ¬ UpdatesKept .normal 1 [.mix] raceAgenda := by
  intro h
  obtain ⟨ordem, hmerge, hfinal⟩ := h (by decide)
  rcases hmerge.singleton_cases with rfl | rfl
  · exact absurd hfinal (by decide)
  · exact absurd hfinal (by decide)

/-! ## Explaining one more operation -/

section Explicada

variable {inicial m : ModoOperacao} {a : ℕ} {cs : List ModoOperacao}

theorem explicada_inicial : Explicada inicial 0 [] inicial :=
  ⟨[], .nil, rfl⟩

/-- An advance that starts from the explained mode goes to the end. -/
theorem Explicada.avanco (h : Explicada inicial a cs m) :
    Explicada inicial (a + 1) cs m.proximo := by
  obtain ⟨ordem, hmerge, hfinal⟩ := h
  refine ⟨ordem ++ [.avanco], ?_, ?_⟩
  · rw [List.replicate_succ']
    exact hmerge.snoc_left
  · rw [List.foldl_append, hfinal]
    exact Operacao.executa_avanco m

theorem Explicada.comando (h : Explicada inicial a cs m) (modo : ModoOperacao) :
    Explicada inicial a (cs ++ [modo]) modo := by
  obtain ⟨ordem, hmerge, -⟩ := h
  refine ⟨ordem ++ [.comando modo], ?_, ?_⟩
  · rw [List.map_append]
    exact hmerge.snoc_right
  · rw [List.foldl_append]
    exact Operacao.executa_comando modo _

/-- If the last command set the mode, any number of advances before all the
commands changes nothing. -/
theorem explicada_of_getLast (a : ℕ) (h : cs.getLast? = some m) :
    Explicada inicial a cs m := by
  obtain ⟨ds, rfl⟩ := List.getLast?_eq_some_iff.mp h
  refine ⟨_, Merge.append _ _, ?_⟩
  rw [List.map_append, ← List.append_assoc, List.foldl_append]
  exact Operacao.executa_comando m _

end Explicada

/-! ## The invariant -/

/-- The advance a control task at `p` has entered and not yet taken effect. -/
def PassoModo.avancosPendentes : PassoModo → ℕ
  | .le | .compara _ | .grava _ => 1
  | .registra | .fim => 0

/-- The command an MQTT task at `p` has entered and not yet taken effect. -/
def PassoModo.comandosPendentes : PassoModo → List ModoOperacao
  | .compara m | .grava m => [m]
  | .le | .registra | .fim => []

/-- The mode a control task at `p` has decided to store. -/
def PassoModo.alvo : PassoModo → Option ModoOperacao
  | .compara m | .grava m => some m
  | .le | .registra | .fim => none

/-- The operations that have taken effect explain the mode, and a decided
advance still fits it, unless the last command is what the cell holds. -/
structure Corrida.Inv (inicial : ModoOperacao) (avancos : ℕ)
    (comandos : List ModoOperacao) (s : Corrida) (a : ℕ)
    (cs : List ModoOperacao) : Prop where
  avancos_eq : a + s.botao.avancosPendentes + s.avancos = avancos
  comandos_eq : cs ++ s.remoto.comandosPendentes ++ s.comandos = comandos
  remoto_ne : s.remoto ≠ .le
  explicada : Explicada inicial a cs s.sModo
  alvo : ∀ y, s.botao.alvo = some y →
    s.sModo.proximo = y ∨ cs.getLast? = some s.sModo

/-- The control task is about to store over a mode that is neither the one its
advance started from nor the one it stores. -/
def Corrida.Perde (s : Corrida) : Prop :=
  match s.botao with
  | .grava y => s.sModo ≠ y ∧ s.sModo.proximo ≠ y
  | _ => False

instance : ∀ s : Corrida, Decidable s.Perde
  | ⟨m, .grava y, _, _, _⟩ =>
      inferInstanceAs (Decidable (m ≠ y ∧ m.proximo ≠ y))
  | ⟨_, .le, _, _, _⟩ | ⟨_, .compara _, _, _, _⟩ | ⟨_, .registra, _, _, _⟩
  | ⟨_, .fim, _, _, _⟩ => isFalse id

section Passo

variable {inicial : ModoOperacao} {k a : ℕ} {cmds cs : List ModoOperacao}
  {s : Corrida}

/-- An advance with target `y` that finds or leaves `y` in the cell, having
overwritten nothing else. -/
theorem Corrida.Inv.explica_alvo (h : s.Inv inicial k cmds a cs)
    {y : ModoOperacao} (hy : s.botao.alvo = some y)
    (hcell : s.sModo = y ∨ s.sModo.proximo = y) :
    Explicada inicial (a + 1) cs y := by
  rcases hcell with rfl | rfl
  · -- nobody advances a mode to itself: a command put `y` there
    rcases h.alvo _ hy with hnext | hlast
    · exact absurd hnext (ModoOperacao.proximo_ne _)
    · exact explicada_of_getLast _ hlast
  · exact h.explicada.avanco

theorem Corrida.Inv.controle (h : s.Inv inicial k cmds a cs) (hok : ¬ s.Perde) :
    ∃ a', (s.passo .controle).Inv inicial k cmds a' cs := by
  obtain ⟨m, botao, n, remoto, rest⟩ := s
  have hinv := h
  obtain ⟨hk, hcmds, hrem, hexp, halvo⟩ := h
  cases botao with
  | le =>
      exact ⟨a, hk, hcmds, hrem, hexp, by
        rintro y ⟨⟩
        exact Or.inl rfl⟩
  | compara y =>
      by_cases hy : y = m
      · refine ⟨a + 1, ?_⟩
        have hstep : Corrida.passo ⟨m, .compara y, n, remoto, rest⟩ .controle =
            ⟨m, .fim, n, remoto, rest⟩ := by
          simp [Corrida.passo, PassoModo.passo, hy]
        rw [hstep]
        refine ⟨hk, hcmds, hrem, ?_, nofun⟩
        exact hy ▸ hinv.explica_alvo rfl (Or.inl hy.symm)
      · refine ⟨a, ?_⟩
        have hstep : Corrida.passo ⟨m, .compara y, n, remoto, rest⟩ .controle =
            ⟨m, .grava y, n, remoto, rest⟩ := by
          simp [Corrida.passo, PassoModo.passo, hy]
        rw [hstep]
        exact ⟨hk, hcmds, hrem, hexp, halvo⟩
  | grava y =>
      refine ⟨a + 1, hk, hcmds, hrem, ?_, nofun⟩
      refine hinv.explica_alvo rfl ?_
      by_contra hne
      rw [not_or] at hne
      exact hok hne
  | registra => exact ⟨a, hk, hcmds, hrem, hexp, nofun⟩
  | fim =>
      cases n with
      | zero => exact ⟨a, hk, hcmds, hrem, hexp, halvo⟩
      | succ n =>
          refine ⟨a, ?_, hcmds, hrem, hexp, nofun⟩
          rw [← hk]
          show a + 1 + n = a + 0 + (n + 1)
          omega

/-- A step of the MQTT task. A command takes effect last. -/
theorem Corrida.Inv.mqtt (h : s.Inv inicial k cmds a cs) :
    ∃ cs', (s.passo .mqtt).Inv inicial k cmds a cs' := by
  obtain ⟨m, botao, n, remoto, rest⟩ := s
  obtain ⟨hk, hcmds, hrem, hexp, halvo⟩ := h
  cases remoto with
  | le => exact absurd rfl hrem
  | compara y =>
      by_cases hy : y = m
      · refine ⟨cs ++ [y], ?_⟩
        have hstep : Corrida.passo ⟨m, botao, n, .compara y, rest⟩ .mqtt =
            ⟨m, botao, n, .fim, rest⟩ := by
          simp [Corrida.passo, PassoModo.passo, hy]
        rw [hstep]
        refine ⟨hk, ?_, nofun, hy ▸ hexp.comando y, fun _ _ => Or.inr ?_⟩
        · simpa [PassoModo.comandosPendentes] using hcmds
        · simp [hy]
      · refine ⟨cs, ?_⟩
        have hstep : Corrida.passo ⟨m, botao, n, .compara y, rest⟩ .mqtt =
            ⟨m, botao, n, .grava y, rest⟩ := by
          simp [Corrida.passo, PassoModo.passo, hy]
        rw [hstep]
        exact ⟨hk, hcmds, nofun, hexp, halvo⟩
  | grava y =>
      refine ⟨cs ++ [y], hk, ?_, nofun, hexp.comando y, fun _ _ => Or.inr ?_⟩
      · simpa [Corrida.passo, PassoModo.passo, PassoModo.comandosPendentes]
          using hcmds
      · simp [Corrida.passo, PassoModo.passo]
  | registra => exact ⟨cs, hk, hcmds, nofun, hexp, halvo⟩
  | fim =>
      cases rest with
      | nil => exact ⟨cs, hk, hcmds, hrem, hexp, halvo⟩
      | cons c rest =>
          refine ⟨cs, hk, ?_, nofun, hexp, halvo⟩
          simpa [Corrida.passo, PassoModo.comandosPendentes] using hcmds

end Passo

/-! ## Whole runs -/

/-- In no step of the run does the control task store over a foreign mode. -/
def NeverLoses : Corrida → List TarefaModo → Prop
  | _, [] => True
  | s, t :: agenda =>
      (t = .controle → ¬ s.Perde) ∧ NeverLoses (s.passo t) agenda

instance decidableNeverLoses :
    ∀ (s : Corrida) (agenda : List TarefaModo), Decidable (NeverLoses s agenda)
  | _, [] => isTrue trivial
  | s, t :: agenda =>
      have := decidableNeverLoses (s.passo t) agenda
      inferInstanceAs (Decidable (_ ∧ _))

theorem Corrida.Inv.roda {inicial : ModoOperacao} {k : ℕ}
    {cmds : List ModoOperacao} {agenda : List TarefaModo} :
    ∀ {s : Corrida} {a : ℕ} {cs : List ModoOperacao},
      s.Inv inicial k cmds a cs → NeverLoses s agenda →
      ∃ a' cs', (s.roda agenda).Inv inicial k cmds a' cs' := by
  induction agenda with
  | nil => exact fun h _ => ⟨_, _, h⟩
  | cons t agenda ih =>
      intro s a cs h hok
      cases t with
      | controle =>
          obtain ⟨a', h'⟩ := h.controle (hok.1 rfl)
          exact ih h' hok.2
      | mqtt =>
          obtain ⟨cs', h'⟩ := h.mqtt
          exact ih h' hok.2

/-- **Mode updates are kept in every run that never loses one.** -/
theorem modeUpdatesKept (inicial : ModoOperacao) (avancos : ℕ)
    (comandos : List ModoOperacao) (agenda : List TarefaModo)
    (h : NeverLoses { sModo := inicial, avancos, comandos } agenda) :
    UpdatesKept inicial avancos comandos agenda := by
  rintro ⟨hbotao, havancos, hremoto, hcomandos⟩
  have hstart : Corrida.Inv inicial avancos comandos
      { sModo := inicial, avancos, comandos } 0 [] :=
    ⟨Nat.zero_add _, rfl, nofun, explicada_inicial, nofun⟩
  obtain ⟨a, cs, hinv⟩ := hstart.roda h
  have hk := hinv.avancos_eq
  have hcs := hinv.comandos_eq
  rw [hbotao, havancos] at hk
  rw [hremoto, hcomandos] at hcs
  obtain rfl : a = avancos := hk
  obtain rfl : cs = comandos := by
    simpa [PassoModo.comandosPendentes] using hcs
  exact hinv.explicada

/-- The schedule of the race, with a command for the very mode the button
decides on. -/
theorem sameTarget_kept : UpdatesKept .normal 1 [.duo] raceAgenda :=
  modeUpdatesKept .normal 1 [.duo] raceAgenda (by decide)

end HidroControl
