import SmartHelmet.LinkBringUp

namespace SmartHelmet.Firmware

end SmartHelmet.Firmware
