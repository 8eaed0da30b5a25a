import DeviceInfoPlugin.DataSources

/-!
# The accessors with one text result

Each accessor tries its sources in a fixed order on the output string of its
caller.
-/

namespace DeviceInfoPlugin
namespace DeviceInfo

open Regex

def readProperty (device : Device) (key : String) : Getter :=
  readFile device "/etc/device.properties" (propertyLine key)

def serialNumber (device : Device) : Getter :=
  (getMFRData device .serialNumber).orElse
    (getRFCData device "Device.DeviceInfo.SerialNumber")

def sku (device : Device) : Getter :=
  (readProperty device "MODEL_NUM").orElse
    ((getMFRData device .modelName).orElse
      (getRFCData device "Device.DeviceInfo.ModelName"))

def make (device : Device) : Getter :=
  (getMFRData device .manufacturer).orElse (readProperty device "MFG_NAME")

def isProvisioned (deviceName : Text) : Bool :=
  deviceName = "PLATCO".toList || deviceName = "LLAMA".toList

def model (device : Device) : Getter :=
  fun response => do
    let (result, deviceName) ← readProperty device "DEVICE_NAME" []
    if result = ERROR_NONE ∧ isProvisioned deviceName then
      (getMFRData device .provisionedModelName).orElse
        (readProperty device "FRIENDLY_ID") response
    else
      readProperty device "FRIENDLY_ID" response

/-- What the caller passes is overwritten first. -/
def brand (device : Device) : Getter :=
  fun _ => do
    let (result, response) ←
      (readFile device "/tmp/.manufacturer" wholeLine).orElse
        (getMFRData device .manufacturer) "Unknown".toList
    return (if result = ERROR_NONE then ERROR_NONE else ERROR_GENERAL, response)

def socName (device : Device) : Getter :=
  readProperty device "SOC"

def distributorId (device : Device) : Getter :=
  (readFile device "/opt/www/authService/partnerId3.dat" wholeLine).orElse
    (getRFCData device "Device.DeviceInfo.X_RDKCENTRAL-COM_Syndication.PartnerId")

def chipSet (device : Device) : Getter :=
  readProperty device "CHIPSET_NAME"

end DeviceInfo
end DeviceInfoPlugin
