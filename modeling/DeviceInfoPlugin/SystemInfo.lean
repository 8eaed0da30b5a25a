import DeviceInfoPlugin.TextAccessors
import DeviceInfoPlugin.ReferenceLedger
import DeviceInfoPlugin.TracedProgram

/-!
# The system information

`SystemInfo` holds a reference on the subsystem object of the shell while it
fills in the caller's structure.  It asks for the serial number with the
reference held, before anything is assigned, and ignores whether one was
found; the copy out of the reply may cut it short at this point.
-/

namespace DeviceInfoPlugin
namespace DeviceInfo

open ReferenceLedger
open Traced

abbrev SubSystem := ℕ

structure CpuLoadAvg where
  avg1min : UInt64
  avg5min : UInt64
  avg15min : UInt64
deriving DecidableEq, Repr

structure SystemInfos where
  time : Text
  version : Text
  uptime : UInt64
  freeram : UInt64
  totalram : UInt64
  totalswap : UInt64
  freeswap : UInt64
  devicename : Text
  cpuload : Text
  serialnumber : Text
  cpuloadavg : CpuLoadAvg
deriving DecidableEq

/-- What `_service->SubSystems()`, the clock and the `Core::SystemInfo`
singleton answer during one call. -/
structure SystemSources where
  /-- Null, or an object with a reference for the caller. -/
  subSystem : Option SubSystem
  version : Text
  buildTreeHash : Text
  time : Text
  upTime : UInt64
  freeRam : UInt64
  totalRam : UInt64
  totalSwap : UInt64
  freeSwap : UInt64
  hostName : Text
  /-- After the cast to `uint32_t`. -/
  cpuLoad : UInt32
  /-- Null, or a pointer to three values in a row. -/
  cpuLoadAvg : Option CpuLoadAvg

inductive SystemFault
  | nullService
  | copy (fault : CopyFault)
deriving DecidableEq, Repr

/-- `Core::NumberType<uint32_t>(number).Text()` -/
def numberText (number : UInt32) : Text :=
  Nat.toDigits 10 number.toNat

abbrev SystemCall (α : Type) :=
  Program (Entry SubSystem) SystemFault SystemInfos α

/-- `SerialNumber(deviceSerial)`, the result of which is not looked at. -/
def readSerial (device : Device) : SystemCall Text :=
  match serialNumber device [] with
  | .ok (_, serialnumber) => pure serialnumber
  | .error fault => .raise (.copy fault)

/-- `service` is `_service`, which is used without a test. -/
def systemInfo {Shell : Type} (service : Option Shell) (sources : SystemSources)
    (device : Device) : SystemCall Hresult := do
  match service with
  | none => .raise .nullService
  | some _ => pure ()
  match sources.subSystem with
  | some subSystem => .observe (.acquired subSystem)
  | none => pure ()
  let serialnumber ← readSerial device
  .assign fun systemInfo => { systemInfo with time := sources.time }
  match sources.subSystem with
  | some _ =>
      .assign fun systemInfo =>
        { systemInfo with
          version := sources.version ++ '#' :: sources.buildTreeHash }
  | none => pure ()
  .assign fun systemInfo =>
    { systemInfo with
      uptime := sources.upTime
      freeram := sources.freeRam
      totalram := sources.totalRam
      totalswap := sources.totalSwap
      freeswap := sources.freeSwap
      devicename := sources.hostName
      cpuload := numberText sources.cpuLoad
      serialnumber }
  -- the incremented pointers are never null once the first is not
  match sources.cpuLoadAvg with
  | some cpuloadavg =>
      .assign fun systemInfo => { systemInfo with cpuloadavg }
  | none => pure ()
  match sources.subSystem with
  | some subSystem => .observe (.released subSystem)
  | none => pure ()
  return ERROR_NONE

/-! ## What a call reports -/

/-- The serial number of the library or else of RFC; empty without either. -/
def serialOrEmpty (device : Device) : Text :=
  ((device.mfr .serialNumber).offered.or
    (device.rfc "Device.DeviceInfo.SerialNumber").offered).getD []

def reportedSystem (sources : SystemSources) (device : Device)
    (prior : SystemInfos) : SystemInfos where
  time := sources.time
  version :=
    if sources.subSystem.isSome then
      sources.version ++ '#' :: sources.buildTreeHash
    else prior.version
  uptime := sources.upTime
  freeram := sources.freeRam
  totalram := sources.totalRam
  totalswap := sources.totalSwap
  freeswap := sources.freeSwap
  devicename := sources.hostName
  cpuload := numberText sources.cpuLoad
  serialnumber := serialOrEmpty device
  cpuloadavg := sources.cpuLoadAvg.getD prior.cpuloadavg

theorem serialNumber_of_copyable {device : Device}
    (hcopyable : (device.mfr .serialNumber).Copyable) :
    ∃ result, serialNumber device [] = .ok (result, serialOrEmpty device) := by
  have hmfr := getMFRData_offers hcopyable []
  have hrfc := getRFCData_offers device "Device.DeviceInfo.SerialNumber" []
  unfold serialOrEmpty
  cases hoffered : (device.mfr .serialNumber).offered with
  | some value =>
      rw [hoffered] at hmfr
      exact ⟨ERROR_NONE, Getter.orElse_of_found hmfr⟩
  | none =>
      rw [hoffered] at hmfr
      rw [serialNumber, Getter.orElse_of_unavailable hmfr, hrfc]
      cases (device.rfc "Device.DeviceInfo.SerialNumber").offered with
      | some value => exact ⟨ERROR_NONE, rfl⟩
      | none => exact ⟨ERROR_GENERAL, rfl⟩

theorem serialNumber_of_not_copyable {device : Device}
    (hcopyable : ¬ (device.mfr .serialNumber).Copyable) :
    ∃ fault, serialNumber device [] = .error fault := by
  rcases getMFRData_fails hcopyable [] with ⟨fault, hfault⟩
  exact ⟨fault, Getter.orElse_of_error hfault⟩

section Call

variable {Shell : Type} (shell : Shell) (sources : SystemSources)
  {device : Device} (prior : SystemInfos)

def SystemSources.acquired : List (Entry SubSystem) :=
  (sources.subSystem.map Entry.acquired).toList

def SystemSources.released : List (Entry SubSystem) :=
  (sources.subSystem.map Entry.released).toList

/-- Either the call runs to its end, reports everything and gives the
reference back, or it stops with the reference held and nothing reported. -/
theorem systemInfo_of_copyable
    (hcopyable : (device.mfr .serialNumber).Copyable) :
    systemInfo (some shell) sources device prior =
      ⟨sources.acquired ++ sources.released, .ok ERROR_NONE,
        reportedSystem sources device prior⟩ := by
  obtain ⟨result, hserial⟩ := serialNumber_of_copyable hcopyable
  have hread : readSerial device = pure (serialOrEmpty device) := by
    rw [readSerial, hserial]
  unfold systemInfo SystemSources.acquired SystemSources.released reportedSystem
  rw [hread]
  cases sources.subSystem <;> cases sources.cpuLoadAvg <;> rfl

theorem systemInfo_of_not_copyable
    (hcopyable : ¬ (device.mfr .serialNumber).Copyable) :
    ∃ fault, systemInfo (some shell) sources device prior =
      ⟨sources.acquired, .error (.copy fault), prior⟩ := by
  obtain ⟨fault, hserial⟩ := serialNumber_of_not_copyable hcopyable
  have hread : readSerial device = .raise (.copy fault) := by
    rw [readSerial, hserial]
  use fault
  unfold systemInfo SystemSources.acquired
  rw [hread]
  cases sources.subSystem <;> rfl

/-- A call succeeds exactly if the reply about the serial number has its
length inside its buffer; then it reports every field.  Otherwise it leaves
the caller's structure alone but keeps the reference on the subsystem. -/
theorem systemInfo_reports_iff :
    ((systemInfo (some shell) sources device prior).result = .ok ERROR_NONE ↔
      (device.mfr .serialNumber).Copyable) ∧
    ((systemInfo (some shell) sources device prior).result = .ok ERROR_NONE →
      (systemInfo (some shell) sources device prior).state =
        reportedSystem sources device prior) ∧
    ((systemInfo (some shell) sources device prior).result ≠ .ok ERROR_NONE →
      (systemInfo (some shell) sources device prior).state = prior) ∧
    ((∀ subSystem,
      acquisitions (systemInfo (some shell) sources device prior).trace
          subSystem =
        releases (systemInfo (some shell) sources device prior).trace
          subSystem) ↔
      sources.subSystem = none ∨ (device.mfr .serialNumber).Copyable) := by
  by_cases hcopyable : (device.mfr .serialNumber).Copyable
  · rw [systemInfo_of_copyable shell sources prior hcopyable]
    have hreturned : ∀ subSystem,
        acquisitions (sources.acquired ++ sources.released) subSystem =
          releases (sources.acquired ++ sources.released) subSystem := by
      intro subSystem
      unfold SystemSources.acquired SystemSources.released
      cases sources.subSystem with
      | none => rfl
      | some held =>
          by_cases heq : held = subSystem <;>
            simp [acquisitions, releases, heq]
    simp [hcopyable, hreturned]
  · obtain ⟨fault, hcall⟩ :=
      systemInfo_of_not_copyable shell sources prior hcopyable
    rw [hcall]
    have hkept : (∀ subSystem, acquisitions sources.acquired subSystem =
        releases sources.acquired subSystem) ↔ sources.subSystem = none := by
      unfold SystemSources.acquired
      cases sources.subSystem with
      | none => simp [acquisitions, releases]
      | some held =>
          simp only [reduceCtorEq, iff_false]
          intro hsame
          have h := hsame held
          simp [acquisitions, releases] at h
    simp [hcopyable, hkept]

end Call

end DeviceInfo
end DeviceInfoPlugin
