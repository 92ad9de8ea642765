import HidroControl.NetworkIndependence
import HidroControl.Outputs
import HidroControl.StationAddress

/-!
# What the program says of the station

The screen and the frames carry a Wi-Fi flag, and `app_main` waits for one. Between
`netwifi_init` and any later moment of a run the handler has been called with the
station's events since then (`Programa.ouvidos`), whatever the tasks did in between,
so the flag is the one of `StationAddress`: the reports are true as long as no loss
comes while an address is held (`relatos_verdadeiros`), and the control task exists
only on a station that has been given an address (`tarefa_apos_endereco`).
-/

namespace HidroControl

open Trajectory

/-- The event of the station among those of the network. -/
def EventoRede.idf? : EventoRede → Option EventoIdf
  | .idf e => some e
  | _ => none

namespace Programa

variable {amb : Ambiente} {s : Programa} {es : List EventoIdf}

/-- The module is the one that `netwifi_init` and these events make. -/
def Ouviu (es : List EventoIdf) (s : Programa) : Prop :=
  s.netwifi = if s.main.inicializa then {} else aposEventos es

/-! ## One turn -/

/-- Nothing is registered before `netwifi_init`. -/
theorem foldl_despachaEvento_inicial (es : List EventoIdf) :
    es.foldl (fun s e => despachaEvento e s) ({} : Netwifi) = {} :=
  List.foldl_fixed' (fun _ => rfl) es

theorem netwifi_rede (s : Programa) (e : EventoRede) :
    (s.rede e).netwifi =
      (e.idf?.toList).foldl (fun s e => despachaEvento e s) s.netwifi := by
  cases e with
  | idf e => rfl
  | mqtt e =>
      unfold rede recebeMqtt
      dsimp only
      split
      · split <;> rfl
      · rfl
  | sntp =>
      unfold rede
      dsimp only
      split <;> rfl
  | parede l => rfl

theorem netwifi_foldl_rede (es : List EventoRede) (s : Programa) :
    (es.foldl rede s).netwifi =
      (es.filterMap EventoRede.idf?).foldl (fun s e => despachaEvento e s) s.netwifi := by
  induction es generalizing s with
  | nil => rfl
  | cons e es ih =>
      rw [List.foldl_cons, ih, netwifi_rede, ← List.foldl_append]
      cases h : e.idf? with
      | none => rw [List.filterMap_cons_none h]; rfl
      | some i => rw [List.filterMap_cons_some h]; rfl

theorem Ouviu.foldl_rede (h : s.Ouviu es) (rs : List EventoRede) :
    (rs.foldl rede s).Ouviu (es ++ rs.filterMap EventoRede.idf?) := by
  have hmain := main_foldl_rede rs s
  unfold Ouviu at *
  rw [netwifi_foldl_rede, hmain, h]
  split
  · exact foldl_despachaEvento_inicial _
  · exact List.foldl_append.symm

/-- Of all that is not the network, `app_main` alone writes to the module. -/
theorem fisico_netwifi (amb : Ambiente) {e : EventoFisico} (he : e ≠ .main) (s : Programa) :
    (s.fisico amb e).netwifi = s.netwifi := by
  rcases fisico_cases amb s e with ⟨hmain, -⟩ | ⟨t, -, -, heq⟩ | ⟨_, _, _, -, -, heq⟩
  · exact absurd hmain he
  · obtain ⟨_, _, _, _, _, _, _, _, _, htarefa⟩ := passoTarefa_frame amb t s
    rw [heq, htarefa]
  · rw [heq]

theorem Ouviu.passoMain (h : s.Ouviu es) :
    (s.passoMain amb).Ouviu (if s.main.inicializa then [] else es) := by
  unfold Ouviu at *
  unfold Programa.passoMain
  cases hpc : s.main <;> rw [hpc] at h
  case netwifiInit => exact congrArg netwifiInit h
  case aguarda =>
    dsimp only
    split
    · exact h
    · rw [hpc]
      exact h
  case fim =>
    dsimp only
    rw [hpc]
    exact h
  all_goals exact h

/-- What has been heard after a turn that starts in `s`. -/
def ouvidosApos (s : Programa) (es : List EventoIdf) (rs : List EventoRede) : List EventoIdf :=
  if s.main.inicializa then [] else es ++ rs.filterMap EventoRede.idf?

theorem Ouviu.turno (h : s.Ouviu es) (e : List EventoRede × EventoFisico) :
    (s.turno amb e).Ouviu (s.ouvidosApos es e.1) := by
  have hmain := main_foldl_rede e.1 s
  have hrede := h.foldl_rede e.1
  unfold Programa.turno ouvidosApos
  by_cases he : e.2 = .main
  · rw [he, ← hmain]
    exact hrede.passoMain
  · have hpc := (fisico_semRede amb he (e.1.foldl rede s)).2
    unfold Ouviu at *
    rw [fisico_netwifi amb he, hrede, hpc, hmain]
    split <;> rfl

/-! ## The run -/

section Corrida

variable (amb : Ambiente) (redes : ℕ → List EventoRede) (fis : ℕ → EventoFisico)

/-- The station's events from `netwifi_init` to turn `n`. -/
def ouvidos : ℕ → List EventoIdf
  | 0 => []
  | n + 1 => (estado amb redes fis n).ouvidosApos (ouvidos n) (redes n)

theorem ouviu_estado (n : ℕ) :
    (estado amb redes fis n).Ouviu (ouvidos amb redes fis n) := by
  induction n with
  | zero => rfl
  | succ n ih => exact ih.turno (redes n, fis n)

end Corrida

/-! ## The reports -/

/-- Only a step of the control task draws a screen or publishes a frame. -/
theorem turno_relata (amb : Ambiente) (s : Programa) (e : List EventoRede × EventoFisico) :
    (∃ t, s.tarefa = some t ∧ s.turno amb e = (e.1.foldl rede s).passoTarefa amb t) ∨
      ((s.turno amb e).oled = s.oled ∧ (s.turno amb e).publicacoes = s.publicacoes) := by
  obtain ⟨_, _, _, _, _, _, hrede⟩ := Programa.foldl_rede e.1 s
  unfold Programa.turno
  rcases fisico_cases amb (e.1.foldl rede s) e.2 with
    ⟨-, heq⟩ | ⟨t, -, ht, heq⟩ | ⟨_, _, _, -, -, heq⟩
  · obtain ⟨_, _, _, _, _, _, _, _, _, _, hmain, -⟩ := passoMain_frame amb (e.1.foldl rede s)
    rw [heq, hmain, hrede]
    exact Or.inr ⟨rfl, rfl⟩
  · rw [hrede] at ht
    exact Or.inl ⟨t, ht, heq⟩
  · rw [heq, hrede]
    exact Or.inr ⟨rfl, rfl⟩

theorem tela_nova {e : List EventoRede × EventoFisico} {d : StatusOled}
    (h : (s.turno amb e).oled = d :: s.oled) :
    s.tarefa.isSome ∧ d.wifiConnected = netwifiIsConnected (e.1.foldl rede s).netwifi := by
  obtain ⟨_, _, _, _, _, _, hrede⟩ := Programa.foldl_rede e.1 s
  have holed : (e.1.foldl rede s).oled = s.oled := by rw [hrede]
  rcases turno_relata amb s e with ⟨t, ht, heq⟩ | ⟨hsame, -⟩
  · rw [heq] at h
    rcases oled_passoTarefa amb t (e.1.foldl rede s) with hold | ⟨d', hnew, hwifi, -⟩
    · rw [hold, holed] at h
      exact absurd h.symm (List.cons_ne_self d s.oled)
    · rw [hnew] at h
      obtain ⟨rfl, -⟩ := List.cons.inj h
      exact ⟨by rw [ht]; rfl, hwifi⟩
  · rw [hsame] at h
    exact absurd h.symm (List.cons_ne_self d s.oled)

theorem quadro_novo {e : List EventoRede × EventoFisico} {p : Publicacao}
    (h : (s.turno amb e).publicacoes = p :: s.publicacoes) :
    s.tarefa.isSome ∧ p.quadro.wifi = netwifiIsConnected (e.1.foldl rede s).netwifi := by
  obtain ⟨_, _, _, _, _, _, hrede⟩ := Programa.foldl_rede e.1 s
  have hpubs : (e.1.foldl rede s).publicacoes = s.publicacoes := by rw [hrede]
  rcases turno_relata amb s e with ⟨t, ht, heq⟩ | ⟨-, hsame⟩
  · rw [heq] at h
    rcases publicacoes_passoTarefa amb t (e.1.foldl rede s) with hold | ⟨-, hnew⟩
    · rw [hold, hpubs] at h
      exact absurd h.symm (List.cons_ne_self p s.publicacoes)
    · rw [hnew, hpubs] at h
      have hp := List.append_cancel_right (h.trans List.singleton_append.symm)
      refine ⟨by rw [ht]; rfl, ?_⟩
      rw [publicacao_quadro (Option.toList_eq_singleton_iff.mp hp)]
      rfl
  · rw [hsame] at h
    exact absurd h.symm (List.cons_ne_self p s.publicacoes)

/-- A step of the task reads what has been heard by then. -/
theorem Ouviu.conectado (h : s.Ouviu es) (hs : s.TarefaNoFim) (ht : s.tarefa.isSome)
    (rs : List EventoRede) :
    netwifiIsConnected (rs.foldl rede s).netwifi =
      (enderecoVisto (s.ouvidosApos es rs)).isSome := by
  obtain ⟨t, ht⟩ := Option.isSome_iff_exists.mp ht
  have hmain : s.main.inicializa = false := by rw [hs.main_eq ht]; rfl
  have hrede := h.foldl_rede rs
  unfold Ouviu at hrede
  rw [hrede, main_foldl_rede, ouvidosApos, hmain, aposEventos_eq]
  rfl

/-- **Reports.** As long as no loss comes while an address is held, every screen and
every frame says that the station is connected if and only if it holds an address. -/
theorem relatos_verdadeiros (amb : Ambiente) (redes : ℕ → List EventoRede)
    (fis : ℕ → EventoFisico) (n : ℕ)
    (hperda : SemPerdaEmUso (ouvidos amb redes fis (n + 1))) :
    (∀ d, (estado amb redes fis (n + 1)).oled = d :: (estado amb redes fis n).oled →
      (d.wifiConnected = true ↔
        ∃ ip, enderecoApos (ouvidos amb redes fis (n + 1)) = some ip)) ∧
    ∀ p, (estado amb redes fis (n + 1)).publicacoes =
        p :: (estado amb redes fis n).publicacoes →
      (p.quadro.wifi = true ↔
        ∃ ip, enderecoApos (ouvidos amb redes fis (n + 1)) = some ip) := by
  have hfim := tarefaNoFim_estado amb redes fis n
  have hheard := ouviu_estado amb redes fis n
  have heq : enderecoVisto ((estado amb redes fis n).ouvidosApos (ouvidos amb redes fis n)
      (redes n)) = enderecoApos (ouvidos amb redes fis (n + 1)) := enderecoVisto_eq hperda
  have hflag (ht : (estado amb redes fis n).tarefa.isSome) :
      netwifiIsConnected ((redes n).foldl rede (estado amb redes fis n)).netwifi = true ↔
        ∃ ip, enderecoApos (ouvidos amb redes fis (n + 1)) = some ip := by
    rw [hheard.conectado hfim ht, heq, Option.isSome_iff_exists]
  constructor
  · intro d hd
    obtain ⟨ht, hwifi⟩ := tela_nova hd
    rw [hwifi]
    exact hflag ht
  · intro p hp
    obtain ⟨ht, hwifi⟩ := quadro_novo hp
    rw [hwifi]
    exact hflag ht

/-- The surroundings of a station that everything works for. -/
def semFalhas : Ambiente := ⟨.binary32, .fonte, fun _ => 0, wifiUp.resposta⟩

/-- A station that has heard one address and nothing else has lost none. -/
theorem semPerdaEmUso_de_um (ip : Ipv4) : SemPerdaEmUso [.ip .staGotIp ip] := by
  intro p ip' hp
  have hmem := hp.subset (List.mem_append_right p List.mem_cons_self)
  rw [List.mem_singleton] at hmem
  cases hmem

/-- Once the tap is open turn 31 draws a screen and turn 32 publishes a frame, and both
say that the station is connected. -/
theorem tapOpens_relatos :
    (∃ d, (estado semFalhas wifiUp.eventos tapOpens 32).oled =
        d :: (estado semFalhas wifiUp.eventos tapOpens 31).oled ∧
      d.wifiConnected = true ∧
        ∃ ip, enderecoApos (ouvidos semFalhas wifiUp.eventos tapOpens 32) = some ip) ∧
    ∃ p, (estado semFalhas wifiUp.eventos tapOpens 33).publicacoes =
        p :: (estado semFalhas wifiUp.eventos tapOpens 32).publicacoes ∧
      p.quadro.wifi = true ∧
        ∃ ip, enderecoApos (ouvidos semFalhas wifiUp.eventos tapOpens 33) = some ip := by
  constructor
  · have hheard : ouvidos semFalhas wifiUp.eventos tapOpens 32 =
        [.ip .staGotIp ⟨192, 168, 0, 7⟩] := by decide +kernel
    have hantes : (estado semFalhas wifiUp.eventos tapOpens 31).oled.length = 0 := by
      decide +kernel
    have htela : (estado semFalhas wifiUp.eventos tapOpens 32).oled.map
        StatusOled.wifiConnected = [true] := by decide +kernel
    obtain ⟨d, hd, hwifi⟩ := List.map_eq_singleton_iff.mp htela
    have hnova : (estado semFalhas wifiUp.eventos tapOpens 32).oled =
        d :: (estado semFalhas wifiUp.eventos tapOpens 31).oled := by
      rw [hd, List.eq_nil_of_length_eq_zero hantes]
    have hperda : SemPerdaEmUso (ouvidos semFalhas wifiUp.eventos tapOpens 32) := by
      rw [hheard]
      exact semPerdaEmUso_de_um _
    have hrelata := (relatos_verdadeiros semFalhas wifiUp.eventos tapOpens 31 hperda).1
    exact ⟨d, hnova, hwifi, (hrelata d hnova).mp hwifi⟩
  · have hheard : ouvidos semFalhas wifiUp.eventos tapOpens 33 =
        [.ip .staGotIp ⟨192, 168, 0, 7⟩] := by decide +kernel
    have hantes : (estado semFalhas wifiUp.eventos tapOpens 32).publicacoes.length = 0 := by
      decide +kernel
    have hquadro : (estado semFalhas wifiUp.eventos tapOpens 33).publicacoes.map
        (fun p => p.quadro.wifi) = [true] := by decide +kernel
    obtain ⟨p, hp, hwifi⟩ := List.map_eq_singleton_iff.mp hquadro
    have hnova : (estado semFalhas wifiUp.eventos tapOpens 33).publicacoes =
        p :: (estado semFalhas wifiUp.eventos tapOpens 32).publicacoes := by
      rw [hp, List.eq_nil_of_length_eq_zero hantes]
    have hperda : SemPerdaEmUso (ouvidos semFalhas wifiUp.eventos tapOpens 33) := by
      rw [hheard]
      exact semPerdaEmUso_de_um _
    have hrelata := (relatos_verdadeiros semFalhas wifiUp.eventos tapOpens 32 hperda).2
    exact ⟨p, hnova, hwifi, (hrelata p hnova).mp hwifi⟩

/-! ## The wait -/

/-- Past the wait of `app_main`, an address has been given. -/
def Liberado (es : List EventoIdf) (s : Programa) : Prop :=
  s.main.inicializa = false → s.main ≠ .aguarda → ∃ ip, EventoIdf.ip .staGotIp ip ∈ es

theorem Liberado.passoMain (h : s.Liberado es) (hs : s.Ouviu es) :
    (s.passoMain amb).Liberado (if s.main.inicializa then [] else es) := by
  unfold Liberado at *
  unfold Programa.passoMain
  cases hpc : s.main <;> rw [hpc] at h
  case netwifiInit => exact fun _ hne => absurd rfl hne
  case aguarda =>
    have hnetwifi : s.netwifi = aposEventos es := by
      unfold Ouviu at hs
      rw [hpc] at hs
      exact hs
    dsimp only
    split
    · next hconectado =>
        -- the wait ends because the module has seen an address
        intro _ _
        rw [hnetwifi, aposEventos_eq] at hconectado
        obtain ⟨ip, hip⟩ := Option.isSome_iff_exists.mp hconectado
        exact ⟨ip, mem_of_enderecoVisto hip⟩
    · exact fun _ hne => absurd hpc hne
  case timekeeperInit => exact fun _ _ => h rfl (by decide)
  case mqttclientInit => exact fun _ _ => h rfl (by decide)
  case criaTarefa => exact fun _ _ => h rfl (by decide)
  case fim => exact fun _ _ => h rfl (by decide)
  all_goals exact fun hinit => Bool.noConfusion hinit

theorem Liberado.turno (h : s.Liberado es) (hs : s.Ouviu es)
    (e : List EventoRede × EventoFisico) :
    (s.turno amb e).Liberado (s.ouvidosApos es e.1) := by
  have hmain := main_foldl_rede e.1 s
  have hrede : (e.1.foldl rede s).Liberado (es ++ e.1.filterMap EventoRede.idf?) := by
    intro hinit hne
    rw [hmain] at hinit hne
    obtain ⟨ip, hip⟩ := h hinit hne
    exact ⟨ip, List.mem_append_left _ hip⟩
  unfold Programa.turno ouvidosApos
  by_cases he : e.2 = .main
  · rw [he, ← hmain]
    exact hrede.passoMain (hs.foldl_rede e.1)
  · have hpc := (fisico_semRede amb he (e.1.foldl rede s)).2
    intro hinit hne
    rw [hpc] at hinit hne
    rw [← hmain, hinit]
    exact hrede hinit hne

theorem liberado_estado (amb : Ambiente) (redes : ℕ → List EventoRede)
    (fis : ℕ → EventoFisico) (n : ℕ) :
    (estado amb redes fis n).Liberado (ouvidos amb redes fis n) := by
  induction n with
  | zero => exact fun hinit => Bool.noConfusion hinit
  | succ n ih => exact ih.turno (ouviu_estado amb redes fis n) (redes n, fis n)

/-- **The wait.** There is no control task before the station has been given an
address. -/
theorem tarefa_apos_endereco (amb : Ambiente) (redes : ℕ → List EventoRede)
    (fis : ℕ → EventoFisico) (n : ℕ) (ht : (estado amb redes fis n).tarefa.isSome) :
    ∃ ip, EventoIdf.ip .staGotIp ip ∈ ouvidos amb redes fis n := by
  obtain ⟨t, ht⟩ := Option.isSome_iff_exists.mp ht
  have hfim := (tarefaNoFim_estado amb redes fis n).main_eq ht
  apply liberado_estado amb redes fis n
  · rw [hfim]
    rfl
  · rw [hfim]
    decide

theorem tapOpens_apos_endereco :
    ∃ ip, EventoIdf.ip .staGotIp ip ∈ ouvidos semFalhas wifiUp.eventos tapOpens 22 :=
  tarefa_apos_endereco semFalhas wifiUp.eventos tapOpens 22 (by decide +kernel)

end Programa

end HidroControl
