namespace HostMonitor.Service

def productVersion : String := "0.1.0"

def productName : String := "hostpulse-agent/" ++ productVersion

end HostMonitor.Service
