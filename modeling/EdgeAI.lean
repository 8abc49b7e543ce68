import EdgeAI.Python.Runtime
import EdgeAI.Python.Numpy
import EdgeAI.Sensor.Reading
import EdgeAI.Sensor.Manager
import EdgeAI.Sensor.Stats
import EdgeAI.Preprocess.Extract
import EdgeAI.Preprocess.Records
import EdgeAI.Preprocess.Shapes
import EdgeAI.Preprocess.Stream
import EdgeAI.Preprocess.Windows
import EdgeAI.Learner.State
import EdgeAI.Learner.Passes
import EdgeAI.Learner.Update
import EdgeAI.Learner.Invariants
import EdgeAI.Learner.Summary
import EdgeAI.Learner.Detect
import EdgeAI.Learner.Keys
import EdgeAI.Learner.Bands
import EdgeAI.Learner.Centroids
import EdgeAI.Learner.Isolation
import EdgeAI.Learner.Warmup
import EdgeAI.Learner.Shape
import EdgeAI.Learner.Runs
import EdgeAI.Learner.Scores
import EdgeAI.Learner.Predict
import EdgeAI.Inference.Context
import EdgeAI.Persist.Json
import EdgeAI.Persist.Strings
import EdgeAI.Persist.Numbers
import EdgeAI.Persist.RoundTrip
import EdgeAI.Persist.Params
import EdgeAI.System.Pipeline
import EdgeAI.System.Alerts
