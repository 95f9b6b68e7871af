import Blueprint.Graph.Basic

/-!
# The starter design

A small ride-sharing design that new projects begin with.
-/

namespace Blueprint.Graph

def starter : Graph where
  valueObjects := [⟨⟨"vo-1"⟩, "Money", [⟨"Amount", .decimal⟩, ⟨"Currency", .string⟩]⟩]
  entities := [⟨⟨"entity-1"⟩, "Ride", .guid,
    [.primitive "PassengerId" .guid, .primitive "DriverId" .guid, .primitive "Pickup" .string,
      .primitive "Dropoff" .string, .primitive "Status" .string]⟩]
  aggregates := [⟨⟨"agg-1"⟩, "RideAggregate", ⟨"entity-1"⟩, [⟨"entity-1"⟩],
    ["Cannot complete ride without driver assigned"]⟩]
  repositories := [⟨⟨"repo-1"⟩, "IRideRepository",
    [⟨"Save", "Task Save(Ride ride)"⟩, ⟨"Get", "Task<Ride?> Get(Guid id)"⟩]⟩]
  useCases := [⟨⟨"uc-1"⟩, "RequestRideUseCase", ⟨"Request", [⟨"PassengerId", .guid⟩]⟩,
    ⟨"Response", [⟨"RideId", .guid⟩]⟩, [⟨"repo-1"⟩], [], [⟨"entity-1"⟩]⟩]
  heading := ⟨"Ride Sharing Domain", 1⟩

end Blueprint.Graph
