namespace HostMonitor.Metric

def isKeyChar (c : Char) : Bool := c.isAlphanum || c == '_' || c == '-'

def key (s : String) : String := s.map fun c => if isKeyChar c then c else '_'

def dropStart? (start cs : List Char) : Option (List Char) :=
  if start.isPrefixOf cs then some (cs.drop start.length) else none

def containerVolumes : List Char := "/dev/mapper/docker-".toList

def devices : List Char := "/dev/".toList

def deviceKey? (ignored : String → Bool) (name : String) : Option String :=
  if containerVolumes.isPrefixOf name.toList || ignored name then none
  else (dropStart? devices name.toList).map fun cs => key (String.ofList cs)

end HostMonitor.Metric
