import HidroControl.Base.WrapClock
import HidroControl.Base.Trajectory
import HidroControl.Base.Rounding
import HidroControl.Base.Arrivals
import HidroControl.Hardware
import HidroControl.Fluxo
import HidroControl.Modos
import HidroControl.Reles
import HidroControl.Main
import HidroControl.Execucao
import HidroControl.HoldOff
import HidroControl.Pulsos
import HidroControl.Freshness
import HidroControl.RunOn
import HidroControl.Base.Interleaving
import HidroControl.ModeRace
import HidroControl.Base.CText
import HidroControl.Base.Json
import HidroControl.Base.Calendar
import HidroControl.Base.Iso8601
import HidroControl.Deviceid
import HidroControl.Netwifi
import HidroControl.StationAddress
import HidroControl.Taxas
import HidroControl.Timekeeper
import HidroControl.Mqttclient
import HidroControl.Payload
import HidroControl.CommandLanguage
import HidroControl.Addressing
import HidroControl.Detection
import HidroControl.Separation
import HidroControl.Base.Debounce
import HidroControl.ModeButton
import HidroControl.Conservation
import HidroControl.Base.Ring
import HidroControl.Ssd1306
import HidroControl.Oled
import HidroControl.Base.Raster
import HidroControl.Pixels
import HidroControl.Base.DigitalLine
import HidroControl.Lines
import HidroControl.StatusScreen
import HidroControl.DisplayRecovery
import HidroControl.FrameClock
import HidroControl.Programa
import HidroControl.Refinement
import HidroControl.Base.Pacing
import HidroControl.Cadence
import HidroControl.NetworkIndependence
import HidroControl.Coherence
import HidroControl.Outputs
import HidroControl.StationReports
import HidroControl.Base.Wire
import HidroControl.EspMqtt.Msg
import HidroControl.EspMqtt.Codec
import HidroControl.Base.ListStore
import HidroControl.EspMqtt.Outbox
import HidroControl.EspMqtt.Receive
import HidroControl.EspMqtt.Client
import HidroControl.EspMqtt.Publication
import HidroControl.EspMqtt.Rounds
import HidroControl.EspMqtt.ClientSafety
import HidroControl.EspMqtt.Delivery
import HidroControl.EspMqtt.Offset
import HidroControl.EspMqtt.Telemetry
