import HidroControl.Coherence
import HidroControl.Payload
import HidroControl.StatusScreen

/-!
# What the program shows and sends

The screen and the payload lose nothing for the arguments they can get. The file
closes the gap to the runs of the program: the rates that `task_hidrocontrol` hands on
are always ones that `fluxo_update` computes, the mode is one of the three names, and
the device id is the initializer or made of the MAC address (`Programa.Saidas`). So
every screen ever drawn is intact, and every frame ever published decodes
(`saidas_inteiras`).
-/

namespace HidroControl

open CText Json

/-- A call of `oled_show_status` with arguments that lose nothing. -/
def StatusOled.Possivel (A : Rounding) (e : StatusOled) : Prop :=
  (∃ m, e.modo = modosNome m) ∧ TaxaPossivel A e.fluxoFrio ∧ TaxaPossivel A e.fluxoQuente

namespace Programa

/-- What has gone out of the program, and what will go out next. -/
structure Saidas (A : Rounding) (s : Programa) : Prop where
  taxas : ∀ c, TaxaPossivel A (s.fluxo.canal c).lmin
  deviceid : ∃ dev, s.deviceid = .de dev
  telas : ∀ e ∈ s.oled, e.Possivel A
  /-- The frames of a clock that shows no time before 1970. -/
  quadros : ∀ p ∈ s.publicacoes, 0 ≤ p.quadro.epoch → QuadroPossivel A p.quadro

variable {amb : Ambiente} {s : Programa} {t : Tarefa}

theorem saidas_inicial (A : Rounding) : ({} : Programa).Saidas A where
  taxas := taxaPossivel_inicial A
  deviceid := ⟨none, rfl⟩
  telas := by rintro _ ⟨⟩
  quadros := by rintro _ ⟨⟩

/-! ## Steps -/

/-- The rates are written at one line. -/
theorem fluxo_passoTarefa (amb : Ambiente) (t : Tarefa) (s : Programa) :
    (s.passoTarefa amb t).fluxo = s.fluxo ∨
      ∃ leitura, (s.passoTarefa amb t).fluxo = fluxoUpdate amb.A leitura s.fluxo := by
  unfold passoTarefa
  cases t.pc with
  | fecha => exact Or.inr ⟨_, rfl⟩
  | registro =>
      obtain ⟨_, _, heq, -⟩ := mostra_eq t s
      dsimp only
      rw [heq]
      exact Or.inl rfl
  | telemetria =>
      dsimp only
      split <;> exact Or.inl rfl
  | _ => exact Or.inl rfl

theorem mostra_oled (t : Tarefa) (s : Programa) :
    (s.mostra t).oled = s.oled ∨
      ∃ e, (s.mostra t).oled = e :: s.oled ∧
        e.wifiConnected = netwifiIsConnected s.netwifi ∧ e.modo = modosNome t.modo ∧
        e.fluxoFrio = (s.fluxo.canal .frio).lmin ∧
        e.fluxoQuente = (s.fluxo.canal .quente).lmin := by
  unfold mostra
  split
  · exact Or.inr ⟨_, rfl, rfl, rfl, rfl, rfl⟩
  · exact Or.inl rfl

/-- Screens are drawn at one line. -/
theorem oled_passoTarefa (amb : Ambiente) (t : Tarefa) (s : Programa) :
    (s.passoTarefa amb t).oled = s.oled ∨
      ∃ e, (s.passoTarefa amb t).oled = e :: s.oled ∧
        e.wifiConnected = netwifiIsConnected s.netwifi ∧ e.modo = modosNome t.modo ∧
        e.fluxoFrio = (s.fluxo.canal .frio).lmin ∧
        e.fluxoQuente = (s.fluxo.canal .quente).lmin := by
  unfold passoTarefa
  cases t.pc with
  | registro => exact mostra_oled t s
  | telemetria =>
      dsimp only
      split <;> exact Or.inl rfl
  | _ => exact Or.inl rfl

theorem deviceid_passoTarefa (amb : Ambiente) (t : Tarefa) (s : Programa) :
    (s.passoTarefa amb t).deviceid = s.deviceid := by
  obtain ⟨_, _, _, _, _, _, _, _, _, heq⟩ := passoTarefa_frame amb t s
  rw [heq]

/-- A frame put together from possible rates is a possible frame. -/
theorem Saidas.quadroPossivel {A : Rounding} (h : s.Saidas A) {p : Publicacao}
    (hp : (mqttclientPublishTelemetry s.deviceid (s.argumentos t) s.parede
      s.mqtt.sConnected s.mqtt s.timekeeper).1 = some p) (hepoch : 0 ≤ p.quadro.epoch) :
    QuadroPossivel A p.quadro := by
  obtain ⟨dev, hdev⟩ := h.deviceid
  rw [publicacao_quadro hp] at hepoch ⊢
  rw [hdev]
  exact montaQuadro_possivel dev s.mqtt.sConnected s.timekeeper ⟨t.modo, rfl⟩
    (h.taxas .frio) (h.taxas .quente) hepoch

theorem Saidas.passoTarefa (h : s.Saidas amb.A) : (s.passoTarefa amb t).Saidas amb.A := by
  constructor
  · rcases fluxo_passoTarefa amb t s with heq | ⟨leitura, heq⟩
    · rw [heq]
      exact h.taxas
    · rw [heq]
      exact fluxoUpdate_taxaPossivel h.taxas
  · rw [deviceid_passoTarefa]
    exact h.deviceid
  · rcases oled_passoTarefa amb t s with heq | ⟨e, heq, -, hmodo, hfrio, hquente⟩
    · rw [heq]
      exact h.telas
    · rw [heq]
      intro d hd
      rcases List.mem_cons.mp hd with rfl | hd
      · refine ⟨⟨t.modo, hmodo⟩, ?_, ?_⟩
        · rw [hfrio]
          exact h.taxas .frio
        · rw [hquente]
          exact h.taxas .quente
      · exact h.telas d hd
  · rcases publicacoes_passoTarefa amb t s with heq | ⟨-, heq⟩
    · rw [heq]
      exact h.quadros
    · -- the frame of this step, and those before it
      rw [heq]
      intro p hp hepoch
      rcases List.mem_append.mp hp with hp | hp
      · exact h.quadroPossivel (Option.mem_toList.mp hp) hepoch
      · exact h.quadros p hp hepoch

theorem canal_fluxoInit (us : ℕ) (f : Fluxo) (c : Canal) :
    (fluxoInit us f).canal c = f.canal c := by
  cases c <;> rfl

theorem Saidas.passoMain (h : s.Saidas amb.A) : (s.passoMain amb).Saidas amb.A := by
  unfold Programa.passoMain
  cases s.main with
  | fluxoInit =>
      refine ⟨?_, h.deviceid, h.telas, h.quadros⟩
      intro c
      show TaxaPossivel amb.A ((fluxoInit s.relogioUs s.fluxo).canal c).lmin
      rw [canal_fluxoInit]
      exact h.taxas c
  | deviceidInit => exact ⟨h.taxas, ⟨some amb.mac, rfl⟩, h.telas, h.quadros⟩
  | aguarda =>
      dsimp only
      split
      · exact ⟨h.taxas, h.deviceid, h.telas, h.quadros⟩
      · exact h
  | fim => exact h
  | _ => exact ⟨h.taxas, h.deviceid, h.telas, h.quadros⟩

/-- **Every state of a run.** -/
theorem saidas_estado (amb : Ambiente) (redes : ℕ → List EventoRede)
    (fis : ℕ → EventoFisico) (n : ℕ) : (estado amb redes fis n).Saidas amb.A := by
  apply estado_regra (saidas_inicial amb.A)
  · intro _ _ _ _ _ _ _ h
    exact ⟨h.taxas, h.deviceid, h.telas, h.quadros⟩
  · intro _ _ _ _ _ h
    exact ⟨h.taxas, h.deviceid, h.telas, h.quadros⟩
  · intro _ h
    exact h.passoMain
  · intro _ _ _ h
    exact h.passoTarefa

end Programa

/-- What a reader of the screen should find: the flags, the mode and the rates of the
call, as they are printed. -/
def StatusOled.leitura (e : StatusOled) : Leitura where
  wifiConnected := e.wifiConnected
  mqttConnected := e.mqttConnected
  modo := e.modo.toList
  fluxoFrio := fixo2 e.fluxoFrio
  fluxoQuente := fixo2 e.fluxoQuente

/-- The arguments of a call as those of a screen. -/
theorem StatusOled.Possivel.status {A : Rounding} {e : StatusOled} (h : e.Possivel A) :
    ∃ c : Status A, c.visivel = e.leitura ∧ ∀ erros o,
      oledShowStatus erros e.wifiConnected e.mqttConnected e.modo e.fluxoFrio e.fluxoQuente o =
        c.mostra erros o := by
  obtain ⟨⟨m, hm⟩, hfrio, hquente⟩ := h
  refine ⟨⟨e.wifiConnected, e.mqttConnected, m, _, _, hfrio, hquente⟩, ?_, ?_⟩
  · unfold StatusOled.leitura
    rw [hm]
    rfl
  · intro erros o
    rw [hm]
    rfl

/-- **Runs of the program.** Every call of `oled_show_status` that a run makes draws, on
a ready display, an intact screen off which the arguments of the call can be read, and
every frame it publishes fits and decodes. -/
theorem saidas_inteiras (A : Rounding) (mac : Mac) (fis : ℕ → EventoFisico) (r : Rede)
    (n : ℕ) :
    (∀ e ∈ (corrida A mac fis r n).oled, ∃ c : Status A, c.visivel = e.leitura ∧
      ∀ erros o, o.sOk = true →
        ∃ o', oledShowStatus erros e.wifiConnected e.mqttConnected e.modo e.fluxoFrio
          e.fluxoQuente o = some o' ∧ c.Inteira o'.sBuffer) ∧
    ∀ p ∈ (corrida A mac fis r n).publicacoes, 0 ≤ p.quadro.epoch →
      p.quadro.payload.length < 384 ∧ parse p.quadro.payload = some p.quadro.json := by
  have h : (corrida A mac fis r n).Saidas A :=
    Programa.saidas_estado ⟨A, .fonte, mac, r.resposta⟩ r.eventos fis n
  constructor
  · intro e he
    obtain ⟨c, hvisivel, hc⟩ := (h.telas e he).status
    refine ⟨c, hvisivel, ?_⟩
    intro erros o hok
    obtain ⟨o', ho', hmostra⟩ := c.mostra_eq erros hok
    exact ⟨o', (hc erros o).trans ho', hmostra.inteira⟩
  · intro p hp hepoch
    have hq := h.quadros p hp hepoch
    exact ⟨hq.length_payload_le.trans_lt (by decide), hq.parse_payload⟩

/-- The first iteration after the tap opens has drawn a screen and published a frame. -/
theorem tapOpens_saidas :
    (∃ e ∈ (corrida .binary32 (fun _ => 0) tapOpens wifiUp 33).oled, ∃ o',
      oledShowStatus (fun _ => false) e.wifiConnected e.mqttConnected e.modo e.fluxoFrio
        e.fluxoQuente Status.oledPronto = some o' ∧
      leTela o'.sBuffer = e.leitura) ∧
    ∃ p ∈ (corrida .binary32 (fun _ => 0) tapOpens wifiUp 33).publicacoes,
      p.quadro.payload.length < 384 ∧ parse p.quadro.payload = some p.quadro.json := by
  obtain ⟨htelas, hquadros⟩ := saidas_inteiras .binary32 (fun _ => 0) tapOpens wifiUp 33
  have htela : (corrida .binary32 (fun _ => 0) tapOpens wifiUp 33).oled.length = 1 := by
    decide +kernel
  have hquadro : ((corrida .binary32 (fun _ => 0) tapOpens wifiUp 33).publicacoes.map
      fun p => decide (0 ≤ p.quadro.epoch)) = [true] := by decide +kernel
  constructor
  · obtain ⟨e, he⟩ := List.length_eq_one_iff.mp htela
    have hmem : e ∈ (corrida .binary32 (fun _ => 0) tapOpens wifiUp 33).oled := by
      rw [he]
      exact List.mem_singleton_self e
    obtain ⟨c, hvisivel, hdesenha⟩ := htelas e hmem
    obtain ⟨o', ho', hinteira⟩ := hdesenha (fun _ => false) Status.oledPronto rfl
    exact ⟨e, hmem, o', ho', hinteira.leitura.trans hvisivel⟩
  · obtain ⟨p, hp, hepoch⟩ := List.mem_map.mp (hquadro ▸ List.mem_singleton_self true)
    exact ⟨p, hp, hquadros p hp (of_decide_eq_true hepoch)⟩

end HidroControl
